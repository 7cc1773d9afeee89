import DexGraft.Proofs.Tool.KeyFiles

/-!
The command of the signer. It names the signers in their order with a mark between one
and the next, and is put together while their files are written, so that it comes to its
end just when the last of these does.
-/
namespace DexGraft.Tool

open Files Signing DexGraft.Action

/-- The arguments that name a signer, the file of its key and that of its certificates. -/
def signerBlock (directory : Path) (entry : Signer × Nat) : List String :=
  ["--v1-signer-name", entry.1.name, "--key", (keyFile directory entry.2).text,
    "--cert", (certificateFile directory entry.2).text]

def signersPart (directory : Path) (material : List Signer) : List String :=
  ["--next-signer"].intercalate (material.zipIdx.map (signerBlock directory))

def signCommand (program : String) (directory unsigned output : Path) (material : List Signer)
    (minSdk : Int) : List String :=
  [program, "sign", "--min-sdk-version", toString minSdk] ++ signersPart directory material ++
    ["--out", output.text, unsigned.text]

def markedBlock (directory : Path) (entry : Signer × Nat) : List String :=
  (if entry.2 = 0 then [] else ["--next-signer"]) ++ signerBlock directory entry

theorem markedBlock_later (directory : Path) (material : List Signer) (first : Nat)
    (later : first ≠ 0) :
    ((material.zipIdx first).map (markedBlock directory)).flatten =
      ((material.zipIdx first).map fun entry =>
        "--next-signer" :: signerBlock directory entry).flatten := by
  congr 1
  refine List.map_congr_left fun entry member => ?_
  have index : entry.2 ≠ 0 := by
    have bound := List.le_snd_of_mem_zipIdx member
    omega
  rw [markedBlock, if_neg index, List.singleton_append]

theorem intercalate_single {α : Type} (mark : α) (block : List α) (blocks : List (List α)) :
    [mark].intercalate (block :: blocks) = block ++ (blocks.map (mark :: ·)).flatten := by
  induction blocks generalizing block with
  | nil => simp [List.intercalate]
  | cons next rest ih =>
      rw [List.intercalate_cons_cons, ih, List.map_cons, List.flatten_cons, List.append_assoc,
        List.singleton_append, List.cons_append]

theorem markedBlocks (directory : Path) (material : List Signer) :
    (material.zipIdx.map (markedBlock directory)).flatten = signersPart directory material := by
  cases material with
  | nil => rfl
  | cons entry rest =>
      rw [signersPart, List.zipIdx_cons, List.map_cons, List.map_cons, List.flatten_cons,
        intercalate_single, markedBlock_later directory rest (0 + 1) (by omega), List.map_map]
      rfl

/-- Why the arguments of a signer cannot be given: in the adapter's own words if the cause is one
that it knows, and otherwise for what the key's form was refused. -/
def KeyFault (entries : List (Signer × Nat)) (fault : Fault) : Prop :=
  (∃ text, fault = .signing text) ∨
    ∃ entry ∈ entries, ∃ cause, fault = .cause cause ∧ entry.1.key = .error cause ∧
      isUnwritableKey cause = false

theorem signerArguments_cases (directory : Path) (entry : Signer × Nat) (session : Session) :
    (∃ paths after, (writeFiles entry.1 directory entry.2).perform session = (.ok paths, after) ∧
      (signerArguments directory entry.1 entry.2).perform session =
        (.ok (markedBlock directory entry), after)) ∨
      ∃ fault fault' after,
        (writeFiles entry.1 directory entry.2).perform session = (.error fault, after) ∧
        (signerArguments directory entry.1 entry.2).perform session = (.error fault', after) ∧
        KeyFault [entry] fault' := by
  simp only [signerArguments, perform_bind, perform_rewording]
  rcases written : (writeFiles entry.1 directory entry.2).perform session with ⟨fault | paths, after⟩
  · refine Or.inr ⟨fault, _, after, rfl, rfl, ?_⟩
    obtain ⟨cause, rfl, known⟩ :=
      (writeFiles_keeps session directory entry).broken session after fault
        (written_refl session directory) written
    cases kind : isUnwritableKey cause with
    | true =>
        rw [reworded, if_pos kind]
        exact Or.inl ⟨_, rfl⟩
    | false =>
        rw [reworded, if_neg (by simp [kind])]
        exact Or.inr ⟨entry, List.mem_singleton_self _, cause, rfl,
          known.resolve_left (by simp [kind]), kind⟩
  · refine Or.inl ⟨paths, after, rfl, ?_⟩
    simp only [writeFiles, bind_eq_ok, pure_eq_ok] at written
    obtain ⟨_, _, _, _, _, _, _, _, _, _, _, _, rfl, rfl⟩ := written
    rfl

-- By induction on the signers; the first that cannot be written ends both traversals.
theorem signers_cases (directory : Path) (entries : List (Signer × Nat)) (session : Session) :
    (∃ paths after, (writeAll directory entries).perform session = (.ok paths, after) ∧
      (entries.mapM fun entry => signerArguments directory entry.1 entry.2).perform session =
        (.ok (entries.map (markedBlock directory)), after)) ∨
      ∃ fault fault' after, (writeAll directory entries).perform session = (.error fault, after) ∧
        (entries.mapM fun entry => signerArguments directory entry.1 entry.2).perform session =
          (.error fault', after) ∧ KeyFault entries fault' := by
  induction entries generalizing session with
  | nil => exact Or.inl ⟨[], session, rfl, rfl⟩
  | cons entry rest ih =>
      rw [writeAll, List.mapM_cons, List.mapM_cons, perform_bind, perform_bind]
      rcases signerArguments_cases directory entry session with
        ⟨paths, middle, written, named⟩ | ⟨fault, fault', after, written, named, why⟩
      · simp only [written, named]
        rcases ih middle with ⟨others, after, written, named⟩ | ⟨fault, fault', after, written,
          named, why⟩
        · rw [writeAll] at written
          rw [perform_bind_ok _ _ _ _ _ written, perform_bind_ok _ _ _ _ _ named]
          exact Or.inl ⟨_, after, rfl, rfl⟩
        · rw [writeAll] at written
          rw [perform_bind, perform_bind, written, named]
          refine Or.inr ⟨fault, fault', after, rfl, rfl, why.imp_right ?_⟩
          rintro ⟨other, member, broken⟩
          exact ⟨other, List.mem_cons_of_mem _ member, broken⟩
      · simp only [written, named]
        refine Or.inr ⟨fault, fault', after, rfl, rfl, why.imp_right ?_⟩
        rintro ⟨other, member, broken⟩
        exact ⟨other, List.mem_cons.mpr (Or.inl (List.mem_singleton.mp member)), broken⟩

end DexGraft.Tool
