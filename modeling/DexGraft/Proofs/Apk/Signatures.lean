import DexGraft.Proofs.Apk.Archive
import DexGraft.Proofs.Apk.Image
import DexGraft.Proofs.Text.Case

/-!
The names of earlier signatures. A rebuild leaves out the entries that have such a name and
keeps all others. A few names are taken for one that are of no signature: four letters outside
ASCII count as letters of ASCII, and behind an extension a line feed counts for nothing.
-/
namespace DexGraft.Apk

open Text Zip

def IsManifest (base : List Char) : Prop :=
  SameLetters "MANIFEST.MF".toList base

def HasExtension (base : List Char) : Prop :=
  ∃ stem ending, base = stem ++ '.' :: ending ∧
    ∃ word ∈ ["SF", "RSA", "DSA", "EC"], SameLetters word.toList ending

theorem HasExtension.suffix {base : List Char} (ends : HasExtension base) :
    ∃ word ∈ ["SF", "RSA", "DSA", "EC"], '.' :: word.toList <:+ base.map Char.toUpper := by
  obtain ⟨stem, ending, rfl, word, among, same⟩ := ends
  refine ⟨word, among, stem.map Char.toUpper, ?_⟩
  have dot : Char.toUpper '.' = '.' := by decide
  rw [List.map_append, List.map_cons, dot, same]

/-- The names of an earlier signature: in the folder of signatures, and not below it, the manifest,
the files with one of the extensions, and all that begin with `SIG-`. -/
def SigningName (name : String) : Prop :=
  ∃ base, name.toList = "META-INF/".toList ++ base ∧ '/' ∉ base ∧
    (IsManifest base ∨ HasExtension base ∨ "SIG-".toList <+: base)

/-- The names that are taken for such: the four letters count as plain ones, and a line feed may
stand behind the extension. -/
def TakenForSigning (name : String) : Prop :=
  ∃ base, name.toList = "META-INF/".toList ++ base ∧ '/' ∉ base ∧
    (IsManifest (plain base) ∨
      (∃ front, (base = front ∨ base = front ++ ['\n']) ∧ HasExtension (plain front)) ∨
      "SIG-".toList <+: base)

theorem spells_length {word text : List Char} (same : spells word text = true) :
    text.length = word.length := by
  induction word generalizing text with
  | nil => cases text <;> simp_all [spells]
  | cons w word ih =>
      cases text with
      | nil => simp [spells] at same
      | cons c text =>
          rw [spells, Bool.and_eq_true] at same
          rw [List.length_cons, List.length_cons, ih same.2]

theorem endsInWord_iff (word text : List Char) :
    endsInWord word text = true ↔
      ∃ stem ending, text = stem ++ '.' :: ending ∧ spells word ending = true := by
  simp only [endsInWord]
  constructor
  · intro ends
    split at ends
    · rename_i ending dropped
      exact ⟨text.take (text.length - (word.length + 1)), ending,
        by rw [← dropped, List.take_append_drop], ends⟩
    · cases ends
  · rintro ⟨stem, ending, rfl, same⟩
    have start : (stem ++ '.' :: ending).length - (word.length + 1) = stem.length := by
      have size := spells_length same
      simp only [List.length_append, List.length_cons]
      omega
    rw [start, List.drop_left' rfl]
    exact same

theorem extension_iff (text : List Char) :
    signatureExtensions.any (fun word => endsInWord word text) = true ↔
      HasExtension (plain text) := by
  have capitals : ∀ word ∈ ["SF", "RSA", "DSA", "EC"],
      (∀ c ∈ word.toList, 65 ≤ c.toNat ∧ c.toNat ≤ 90) ∧ 'I' ∉ word.toList ∧ 'T' ∉ word.toList := by
    simp only [← List.forall_iff_forall_mem]
    decide
  have listed : signatureExtensions = ["SF", "RSA", "DSA", "EC"].map String.toList := rfl
  rw [listed, List.any_map, List.any_eq_true]
  simp only [Function.comp_apply, endsInWord_iff]
  constructor
  · rintro ⟨word, among, stem, ending, rfl, same⟩
    obtain ⟨all, noI, noT⟩ := capitals word among
    exact ⟨plain stem, plain ending, plain_append .., word, among,
      (spells_iff _ _ all noI noT).mp same⟩
  · rintro ⟨front, back, shape, word, among, same⟩
    obtain ⟨all, noI, noT⟩ := capitals word among
    obtain ⟨stem, ending, rfl, rfl, rfl⟩ := plain_dot shape
    exact ⟨word, among, stem, ending, rfl, (spells_iff _ _ all noI noT).mpr same⟩

theorem hasExtension_line (text : List Char) : ¬HasExtension (text ++ ['\n']) := by
  rintro ⟨stem, ending, shape, word, among, same⟩
  have letters : ∀ word ∈ ["SF", "RSA", "DSA", "EC"], word.toList ≠ [] ∧ '\n' ∉ word.toList := by
    decide
  obtain ⟨filled, lineless⟩ := letters word among
  have last := congrArg List.getLast? shape
  cases ending using List.reverseRecOn with
  | nil => exact filled same.symm
  | append_singleton init final =>
      have final_line : '\n' = final := by
        rw [← List.cons_append, ← List.append_assoc, List.getLast?_concat, List.getLast?_concat]
          at last
        exact Option.some.inj last
      rw [← same, ← final_line] at lineless
      exact lineless (List.mem_map_of_mem (f := Char.toUpper)
        (List.mem_append_right _ (List.mem_singleton_self _)))

theorem withoutLineFeed_iff (base : List Char) :
    HasExtension (plain (withoutLineFeed base)) ↔
      ∃ front, (base = front ∨ base = front ++ ['\n']) ∧ HasExtension (plain front) := by
  unfold withoutLineFeed
  cases closed : dropEnd? ['\n'] base with
  | some front =>
      obtain rfl := (dropEnd_eq_some ..).mp closed
      constructor
      · exact fun ends => ⟨front, Or.inr rfl, ends⟩
      · rintro ⟨other, rfl | same, ends⟩
        · rw [plain_append] at ends
          exact absurd ends (hasExtension_line _)
        · rwa [List.append_cancel_right same]
  | none =>
      constructor
      · exact fun ends => ⟨base, Or.inl rfl, ends⟩
      · rintro ⟨front, rfl | rfl, ends⟩
        · exact ends
        · rw [(dropEnd_eq_some ..).mpr rfl] at closed
          cases closed

theorem isSigningMetadata_iff (name : String) :
    isSigningMetadata name = true ↔ TakenForSigning name := by
  have manifest : ∀ base, asciiCapitals base = "MANIFEST.MF".toList ↔ IsManifest (plain base) :=
    fun base => asciiCapitals_iff _ _ (List.forall_iff_forall_mem.mp (by decide))
  unfold isSigningMetadata TakenForSigning
  cases inside : dropStart? signatureFolder name.toList with
  | none =>
      simp only [Bool.false_eq_true, false_iff, not_exists, not_and]
      intro base named
      rw [show dropStart? signatureFolder name.toList = some base from
        (dropStart_eq_some ..).mpr named] at inside
      cases inside
  | some base =>
      have named := (dropStart_eq_some ..).mp inside
      have sole : ∀ other, name.toList = "META-INF/".toList ++ other ↔ other = base := by
        intro other
        rw [named]
        exact ⟨fun same => (List.append_cancel_left same).symm, fun same => same ▸ rfl⟩
      simp only [sole, exists_eq_left, Bool.and_eq_true, Bool.not_eq_true', Bool.or_eq_true,
        beq_iff_eq, manifest, hasSignatureExtension, extension_iff, withoutLineFeed_iff,
        List.isPrefixOf_iff_prefix, or_assoc]
      simp

theorem SigningName.taken {name : String} (signing : SigningName name) : TakenForSigning name := by
  obtain ⟨base, named, direct, kind⟩ := signing
  refine ⟨base, named, direct, ?_⟩
  rcases kind with manifest | ⟨stem, ending, rfl, word, among, same⟩ | marked
  · refine Or.inl ?_
    rw [plain_of_sameLetters manifest (List.forall_iff_forall_mem.mp (by decide))]
    exact manifest
  · have ascii : ∀ word ∈ ["SF", "RSA", "DSA", "EC"], ∀ c ∈ oddLetters, c ∉ word.toList := by
      simp only [← List.forall_iff_forall_mem]
      decide
    refine Or.inr (Or.inl ⟨_, Or.inl rfl, plain stem, ending, ?_, word, among, same⟩)
    rw [plain_append, plain_cons, plainLetters_other (by decide),
      plain_of_sameLetters same (ascii word among), List.singleton_append]
  · exact Or.inr (Or.inr marked)

theorem TakenForSigning.stray {name : String} (taken : TakenForSigning name)
    (other : ¬SigningName name) : ∃ c ∈ name.toList, c ∈ '\n' :: oddLetters := by
  obtain ⟨base, named, direct, kind⟩ := taken
  by_contra clean
  have clear : ∀ c ∈ base, c ∉ '\n' :: oddLetters := fun c member stray =>
    clean ⟨c, named ▸ List.mem_append_right _ member, stray⟩
  have unchanged : plain base = base :=
    plain_self fun c member odd => clear c member (List.mem_cons_of_mem _ odd)
  refine other ⟨base, named, direct, ?_⟩
  rcases kind with manifest | ⟨front, rfl | rfl, ends⟩ | marked
  · exact Or.inl (unchanged ▸ manifest)
  · exact Or.inr (Or.inl (unchanged ▸ ends))
  · exact absurd List.mem_cons_self (clear '\n' (by simp))
  · exact Or.inr (Or.inr marked)

section

variable {deflate : Bytes → Bytes} {archive : Archive} {change : Replacement} {rebuilt : Rebuilt}
  {kept : List Item} {last : Item}

theorem Rewritten.drops (done : Rewritten deflate archive change rebuilt kept last)
    (entry : String) :
    entry ∈ rebuilt.dropped ↔
      entry ∈ archive.names ∧ entry ≠ change.name ∧ TakenForSigning entry := by
  rw [done.signing, List.mem_filter, Bool.and_eq_true, decide_eq_true_eq, isSigningMetadata_iff]

end

theorem Others.retains {archive : Archive} {name : String} {members : List (String × Bytes)}
    (others : Others archive name members) (entry : Entry) (index : Nat)
    (there : (entry, index) ∈ archive.entries.zipIdx) (apart : entry.name ≠ name)
    (other : ¬TakenForSigning entry.name) :
    ∃ content, archive.contentAt wholeWindow index entry = .ok content ∧
      (entry.name, content) ∈ members := by
  have unsigned : isSigningMetadata entry.name = false := by
    rwa [← Bool.not_eq_true, isSigningMetadata_iff]
  have selected : (entry, index) ∈ archive.entries.zipIdx.filter fun row =>
      row.1.name ≠ name ∧ isSigningMetadata row.1.name = false :=
    List.mem_filter.mpr ⟨there, by simp [apart, unsigned]⟩
  obtain ⟨⟨_, content⟩, inside, named, found⟩ := Rows.some_left (Rows.swapped others) _ selected
  exact ⟨content, found, named ▸ inside⟩

/-- Which names are taken for one of a signature, and what a rebuild loses by it: the entries of
these names that it does not replace, and no other. Beyond the names of a signature only such are
taken as have a line feed or one of the four letters. -/
theorem rebuildFile_strips (decoders : Decoders) (deflate : Bytes → Bytes) (source output : Path)
    (replaced : String) (content : Bytes) (alignment : Int) (session after : Session)
    (rebuilt : Rebuilt) :
    (∀ name, isSigningMetadata name = true ↔ TakenForSigning name) ∧
    (∀ name, SigningName name → TakenForSigning name) ∧
    (∀ name, TakenForSigning name →
      SigningName name ∨ ∃ c ∈ name.toList, c ∈ '\n' :: oddLetters) ∧
    ((rebuildFile deflate source replaced content output alignment decoders).perform session =
        (.ok rebuilt, after) →
      ∃ file archive others last,
        session.files.read source = .ok file ∧ Zip.readWith decoders file = .ok archive ∧
        after.files.read output = .ok rebuilt.bytes ∧
        (Deflate.Inverts deflate → Consists rebuilt.bytes (others ++ [last])) ∧
        rebuilt.written = (others ++ [last]).map Prod.fst ∧
        (∀ entry, entry ∈ rebuilt.dropped ↔
          entry ∈ archive.names ∧ entry ≠ replaced ∧ TakenForSigning entry) ∧
        Others archive replaced others ∧
        ∀ entry index, (entry, index) ∈ archive.entries.zipIdx → entry.name ≠ replaced →
          ¬TakenForSigning entry.name →
          ∃ data, archive.contentAt wholeWindow index entry = .ok data ∧
            (entry.name, data) ∈ others) := by
  refine ⟨isSigningMetadata_iff, fun _ => SigningName.taken, ?_, ?_⟩
  · intro name taken
    by_cases signing : SigningName name
    · exact Or.inl signing
    · exact Or.inr (taken.stray signing)
  · intro done
    obtain ⟨file, archive, emptied, found, read, outcome, _, written⟩ :=
      rebuildFile_ok decoders deflate source output replaced content alignment session after
        rebuilt done
    obtain ⟨kept, last, rewritten⟩ := (rebuild_eq_ok ..).mp outcome
    have whole : (kept ++ [last]).map member = kept.map member ++ [member last] := by
      rw [List.map_append, List.map_singleton]
    have others := rewritten.members
    refine ⟨file, archive, kept.map member, member last, found, read,
      Files.write_read emptied _ output _ written, fun inverts => ?_, ?_, rewritten.drops, others,
      others.retains⟩
    · rw [← whole]
      exact ⟨_, _, rewritten.laid, rewritten.holds inverts⟩
    · rw [← whole, List.map_map]
      exact rewritten.written

theorem rebuildFile_strips_manifest :
    ∃ rebuilt after,
      (rebuildFile (Deflate.packing greeting packedGreeting) ⟨0, ["in.apk"]⟩ "a" [9]
        ⟨0, ["out.apk"]⟩ 4).perform givenSession = (.ok rebuilt, after) ∧
      TakenForSigning "META-INF/MANIFEST.MF" ∧ "META-INF/MANIFEST.MF" ∈ rebuilt.dropped ∧
      ∃ others last, rebuilt.written = (others ++ [last]).map Prod.fst ∧
        Consists rebuilt.bytes (others ++ [last]) := by
  have works : ((rebuildFile (Deflate.packing greeting packedGreeting)
      ⟨0, ["in.apk"]⟩ "a" [9] ⟨0, ["out.apk"]⟩ 4).perform givenSession).1.toOption.map
        Rebuilt.dropped = some ["META-INF/MANIFEST.MF"] := by
    decide +kernel
  rcases done : (rebuildFile (Deflate.packing greeting packedGreeting)
    ⟨0, ["in.apk"]⟩ "a" [9] ⟨0, ["out.apk"]⟩ 4).perform givenSession with ⟨fault | rebuilt, after⟩
  · rw [done] at works
    cases works
  · rw [done] at works
    injection works with dropped
    obtain ⟨rule, _, _, rebuilds⟩ := rebuildFile_strips noDecoders
      (Deflate.packing greeting packedGreeting) ⟨0, ["in.apk"]⟩ ⟨0, ["out.apk"]⟩ "a" [9] 4
      givenSession after rebuilt
    obtain ⟨_, _, others, last, _, _, _, consists, names, _⟩ := rebuilds done
    exact ⟨rebuilt, after, rfl, (rule _).mp (by decide +kernel), dropped ▸ List.mem_singleton_self _,
      others, last, names, consists greeting_inverts⟩

def strayBases : List String := ["A.SF\n", "a.\u017ff", "man\u0131fest.mf"]

theorem signing_strays :
    (∀ base ∈ strayBases, isSigningMetadata ("META-INF/" ++ base) = true) ∧
      ∀ base ∈ strayBases, ¬SigningName ("META-INF/" ++ base) := by
  have unlike : ∀ base ∈ strayBases,
      base.toList.map Char.toUpper ≠ "MANIFEST.MF".toList ∧
      (∀ word ∈ ["SF", "RSA", "DSA", "EC"],
        ¬ ('.' :: word.toList <:+ base.toList.map Char.toUpper)) ∧
      ¬ ("SIG-".toList <+: base.toList) := by
    decide +kernel
  refine ⟨by decide +kernel, ?_⟩
  rintro base listed ⟨other, named, -, kind⟩
  rw [String.toList_append] at named
  obtain rfl := List.append_cancel_left named
  obtain ⟨manifest, extension, marked⟩ := unlike base listed
  rcases kind with same | ends | starts
  · exact manifest same
  · obtain ⟨word, known, ends⟩ := ends.suffix
    exact extension word known ends
  · exact marked starts

end DexGraft.Apk
