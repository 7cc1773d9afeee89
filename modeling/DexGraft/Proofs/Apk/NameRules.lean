import DexGraft.Proofs.Apk.Alignment
import DexGraft.Proofs.Apk.Numbered

/-!
The rules for names side by side. A name that is an image's must be stored, is no name of a
signature and has the common alignment, so a rebuild that replaces one image keeps all others as
they have to be. What else must be stored is the resource table and the images of number zero.
-/
namespace DexGraft.Apk

open Text Zip

def Imagelike (name : String) : Prop :=
  ∃ digits, NumberedLine defaultBase defaultExtension digits name

theorem isEnding_iff (ending name : List Char) :
    isEnding ending name = true ↔ name = ending ∨ name = ending ++ ['\n'] := by
  simp [isEnding]

theorem dropWhile_digits (digits rest : List Char)
    (ascii : ∀ c ∈ digits, isAsciiDigit c = true) :
    (digits ++ '.' :: rest).dropWhile isAsciiDigit = '.' :: rest := by
  rw [List.dropWhile_append_of_pos ascii]
  rfl

theorem mustStore_iff (name : String) :
    mustStore name = true ↔ name = resourceTable ∨ Imagelike name := by
  simp only [mustStore, Bool.or_eq_true, beq_iff_eq]
  apply or_congr_right
  constructor
  · intro stored
    split at stored
    · rename_i numbered start
      have front : name.toList = defaultBase.toList ++ numbered := (dropStart_eq_some ..).mp start
      have digits : ∀ c ∈ numbered.takeWhile isAsciiDigit, isAsciiDigit c = true :=
        fun c member => List.mem_takeWhile_imp member
      refine ⟨numbered.takeWhile isAsciiDigit, (numberedLine_iff ..).mpr ⟨digits, ?_⟩⟩
      rw [front]
      simp only [List.append_cancel_left_eq]
      have parts := List.takeWhile_append_dropWhile (p := isAsciiDigit) (l := numbered)
      rcases (isEnding_iff ..).mp stored with plain | line
      · rw [plain] at parts
        exact Or.inl parts.symm
      · rw [line] at parts
        exact Or.inr parts.symm
    · cases stored
  · rintro ⟨digits, numbered⟩
    obtain ⟨ascii, spelled⟩ := (numberedLine_iff ..).mp numbered
    rcases spelled with plain | line
    · rw [(dropStart_eq_some "classes".toList ..).mpr plain]
      apply (isEnding_iff ..).mpr
      exact Or.inl (dropWhile_digits digits _ ascii)
    · rw [(dropStart_eq_some "classes".toList ..).mpr line]
      apply (isEnding_iff ..).mpr
      exact Or.inr (dropWhile_digits digits _ ascii)

theorem Imagelike.opens {name : String} (image : Imagelike name) :
    ∃ rest, name.toList = 'c' :: rest := by
  obtain ⟨digits, numbered⟩ := image
  rcases ((numberedLine_iff ..).mp numbered).2 with plain | line
  · exact ⟨_, plain⟩
  · exact ⟨_, line⟩

-- The first letter already tells these names from those of signatures and of native libraries.
theorem Imagelike.unsigned {name : String} (image : Imagelike name) :
    isSigningMetadata name = false := by
  obtain ⟨rest, opens⟩ := image.opens
  have apart : dropStart? signatureFolder name.toList = none := by
    rw [opens]
    rfl
  rw [isSigningMetadata, apart]

theorem Imagelike.unpaged {name : String} (image : Imagelike name) (alignment : Int) :
    alignmentFor name alignment = alignment := by
  obtain ⟨rest, opens⟩ := image.opens
  have apart : dropStart? "lib/".toList name.toList = none := by
    rw [opens]
    rfl
  rw [alignmentFor, isNativeLibrary, apart]
  rfl

theorem imagelike_of_priority {name : String} {priority : Nat}
    (ranked : imagePriority name defaultBase defaultExtension = .ok (some priority)) :
    Imagelike name := by
  by_contra other
  rw [imagePriority_of_other fun digits numbered => other ⟨digits, numbered⟩] at ranked
  cases ranked

theorem zeros_of_unranked {name : String} {digits : List Char}
    (numbered : NumberedLine defaultBase defaultExtension digits name)
    (unranked : imagePriority name defaultBase defaultExtension = .ok none) :
    digits ≠ [] ∧ ∀ c ∈ digits, c = '0' := by
  rw [imagePriority_of_numbered numbered] at unranked
  split at unranked
  · cases unranked
  · rename_i filled
    split at unranked
    · rename_i short
      rw [← decimal_eq_zero digits ((numberedLine_iff ..).mp numbered).1]
      refine ⟨filled, ?_⟩
      by_contra positive
      rw [if_neg positive] at unranked
      cases unranked
    · cases unranked

/-- An image of an archive as a rebuilt one has to hold it: with its name and its content, stored,
and in line for the alignment that was asked for. -/
structure KeptImage (archive : Archive) (alignment : Int) (row : Entry × Nat)
    (there : LocalEntry) : Prop where
  name : decodeName (there.header.flags.testBit unicodeBit) there.name = .ok row.1.name
  content : archive.contentAt wholeWindow row.2 row.1 = .ok there.data
  stored : there.header.method = Method.stored.number
  inLine : there.InLine alignment

def otherImages (archive : Archive) (replaced : String) : List (Entry × Nat) :=
  archive.entries.zipIdx.filter fun row =>
    row.1.name ≠ replaced && (imageOf? defaultBase defaultExtension row.1.name).isSome

section

variable {deflate : Bytes → Bytes} {archive : Archive} {change : Replacement} {rebuilt : Rebuilt}
  {kept : List Item} {last : Item}

theorem imagelike_of_imageOf {name : String}
    (image : (imageOf? defaultBase defaultExtension name).isSome = true) : Imagelike name := by
  obtain ⟨found, stands⟩ := Option.isSome_iff_exists.mp image
  obtain ⟨_, ranked⟩ := (imageOf_eq_some ..).mp stands
  exact imagelike_of_priority ranked

theorem otherImages_kept (archive : Archive) (change : Replacement) :
    otherImages archive change.name =
      (archive.entries.zipIdx.filter fun row => isKept change row.1).filter fun row =>
        (imageOf? defaultBase defaultExtension row.1.name).isSome := by
  rw [otherImages, List.filter_filter]
  apply List.filter_congr
  intro row _
  by_cases image : (imageOf? defaultBase defaultExtension row.1.name).isSome = true
  · by_cases same : row.1.name = change.name <;>
      simp [image, isKept, isReplaced, same, (imagelike_of_imageOf image).unsigned]
  · simp [image]

theorem keptImage_of_places {row : Entry × Nat} {item : Item} {placed : Placed}
    (image : Imagelike row.1.name) (positive : 1 ≤ change.alignment)
    (as : KeptAs archive row item) (done : Places deflate change.alignment item placed) :
    KeptImage archive change.alignment row placed.localEntry := by
  obtain ⟨found, same⟩ := as
  have named : item.name = row.1.name := congrArg Item.name same
  have settled : Settled item := by
    rw [same]
    exact settled_kept row.1 item.content
  have spot := Places.positioned done settled positive
  have must : mustStore item.name = true := by
    rw [named]
    exact (mustStore_iff _).mpr (Or.inr image)
  have stored := spot.must must
  obtain ⟨inLine, data⟩ := spot.stored stored
  refine ⟨?name, ?content, stored, ?inLine⟩
  case name =>
    rw [← named]
    exact spot.name
  case content =>
    rw [found, data]
    rfl
  case inLine =>
    have common : alignmentFor (member item).1 change.alignment = change.alignment := by
      apply Imagelike.unpaged
      rwa [← named] at image
    rwa [common] at inLine

/-- What was placed holds the images that were not replaced, in their order. -/
theorem Rewritten.images (done : Rewritten deflate archive change rebuilt kept last)
    (positive : 1 ≤ change.alignment) :
    List.SublistForall₂ (KeptImage archive change.alignment) (otherImages archive change.name)
      (rebuilt.placed.map Placed.localEntry) := by
  obtain ⟨front, back, parts, places, _⟩ := Rows.split done.places
  have rows := Rows.partners (Rows.swapped done.others) places
  rw [otherImages_kept, parts, List.sublistForall₂_map_right_iff]
  apply Rows.picked _ back rows
  rintro row placed image ⟨item, _, as, spot⟩
  exact keptImage_of_places (imagelike_of_imageOf image) positive as spot

end

/-- The rules for names agree. A name with a priority must be stored, belongs to no signature and
has no alignment of its own, and of the other names only the resource table and those of number zero
must be stored. So a rebuild with whatever alignment keeps every image but the replaced one, stored
and in line. -/
theorem imagePriority_agrees (decoders : Decoders) (deflate : Bytes → Bytes)
    (source output : Path) (replaced : String) (content : Bytes) (alignment : Int)
    (session after : Session) (rebuilt : Rebuilt) :
    (∀ name priority,
      imagePriority name defaultBase defaultExtension = .ok (some priority) →
        mustStore name = true ∧ isSigningMetadata name = false ∧
        ∀ common, alignmentFor name common = common) ∧
    (∀ name, imagePriority name defaultBase defaultExtension = .ok none →
      mustStore name = true →
        name = "resources.arsc" ∨
        ∃ digits, NumberedLine defaultBase defaultExtension digits name ∧ digits ≠ [] ∧
          ∀ c ∈ digits, c = '0') ∧
    (1 ≤ alignment →
      (rebuildFile deflate source replaced content output alignment decoders).perform session =
        (.ok rebuilt, after) →
      ∃ file archive locals directory,
        session.files.read source = .ok file ∧ Zip.readWith decoders file = .ok archive ∧
        after.files.read output = .ok rebuilt.bytes ∧ Laid rebuilt.bytes locals directory ∧
        List.SublistForall₂ (KeptImage archive alignment) (otherImages archive replaced) locals) := by
  constructor
  · intro name priority ranked
    have image := imagelike_of_priority ranked
    exact ⟨(mustStore_iff name).mpr (Or.inr image), image.unsigned, image.unpaged⟩
  constructor
  · intro name unranked stored
    rcases (mustStore_iff name).mp stored with table | ⟨digits, numbered⟩
    · exact Or.inl table
    · exact Or.inr ⟨digits, numbered, zeros_of_unranked numbered unranked⟩
  · intro positive done
    obtain ⟨file, archive, emptied, found, read, outcome, _, written⟩ :=
      rebuildFile_ok decoders deflate source output replaced content alignment session after
        rebuilt done
    obtain ⟨kept, last, rewritten⟩ := (rebuild_eq_ok ..).mp outcome
    have there := Files.write_read emptied _ output _ written
    exact ⟨file, archive, _, _, found, read, there, rewritten.laid, rewritten.images positive⟩

def imagesBytes : Bytes := archiveBytes [
  givenEntry "classes.dex" .stored [1] [1] 0,
  givenEntry "classes02.dex\n" .deflated greeting packedGreeting 42,
  givenEntry "a" .stored [2] [2] 96]

def imagesSession : Session :=
  { givenSession with files := ⟨[(["in.apk"], .file imagesBytes Files.newFileMode)], []⟩ }

theorem imagePriority_agrees_given :
    let name := "classes02.dex\n"
    imagePriority name defaultBase defaultExtension = .ok (some 2) ∧ mustStore name = true ∧
      imagePriority "classes00.dex" defaultBase defaultExtension = .ok none ∧
      mustStore "classes00.dex" = true ∧
      (∃ digits, NumberedLine defaultBase defaultExtension digits "classes00.dex" ∧ digits ≠ []) ∧
      (1 : Int) ≤ 6 ∧
      ∃ archive rebuilt after locals directory,
        Zip.readWith noDecoders imagesBytes = .ok archive ∧
        (rebuildFile (Deflate.packing greeting packedGreeting) ⟨0, ["in.apk"]⟩
          "classes.dex" [9] ⟨0, ["out.apk"]⟩ 6).perform imagesSession = (.ok rebuilt, after) ∧
        (otherImages archive "classes.dex").map (fun row => row.1.name) = [name] ∧
        Laid rebuilt.bytes locals directory ∧
        List.SublistForall₂ (KeptImage archive 6) (otherImages archive "classes.dex") locals := by
  have second : imagePriority "classes02.dex\n" defaultBase defaultExtension = .ok (some 2) := rfl
  have zero : imagePriority "classes00.dex" defaultBase defaultExtension = .ok none := rfl
  have stored : mustStore "classes00.dex" = true := by decide
  have listed : (Zip.readWith noDecoders imagesBytes).toOption.map (fun archive =>
      (otherImages archive "classes.dex").map fun row => row.1.name) = some ["classes02.dex\n"] := by
    decide +kernel
  have works : ((rebuildFile (Deflate.packing greeting packedGreeting)
      ⟨0, ["in.apk"]⟩ "classes.dex" [9] ⟨0, ["out.apk"]⟩ 6).perform
        imagesSession).1.toOption.isSome = true := by
    decide +kernel
  rcases done : (rebuildFile (Deflate.packing greeting packedGreeting)
    ⟨0, ["in.apk"]⟩ "classes.dex" [9] ⟨0, ["out.apk"]⟩ 6).perform imagesSession with
    ⟨fault | rebuilt, after⟩
  · rw [done] at works
    cases works
  · obtain ⟨ranked, unranked, rebuilds⟩ := imagePriority_agrees noDecoders
      (Deflate.packing greeting packedGreeting) ⟨0, ["in.apk"]⟩ ⟨0, ["out.apk"]⟩ "classes.dex" [9] 6
      imagesSession after rebuilt
    obtain ⟨file, archive, locals, directory, found, read, _, laid, images⟩ :=
      rebuilds (by decide) done
    have same : imagesSession.files.read ⟨0, ["in.apk"]⟩ = .ok imagesBytes := rfl
    rw [same] at found
    cases found
    have opened : Zip.readWith noDecoders imagesBytes = .ok archive := read
    rw [opened] at listed
    rcases unranked _ zero stored with table | ⟨digits, numbered, filled, _⟩
    · exact absurd table (by decide)
    · exact ⟨second, (ranked _ _ second).1, zero, stored, ⟨digits, numbered, filled⟩, by decide,
        archive, rebuilt, after, locals, directory, opened, rfl, Option.some.inj listed, laid,
        images⟩

end DexGraft.Apk
