import DexGraft.Deflate.Inflate
import Mathlib.Tactic.Common

/-!
Compressors that decompression undoes. One of them only stores its input, in
blocks of the greatest length there is; a compressor that packs some contents
better is as good if these are decompressed to what they were.
-/
namespace DexGraft.Deflate

/-- Whatever the compressor writes is decompressed to what it was given. -/
def Inverts (deflate : Bytes → Bytes) : Prop :=
  ∀ content, inflate content.length (deflate content) = ⟨content, .complete⟩

def Reading.advance {α : Type} (step : Reading α) (now : Progress) : Except Ending α × Progress :=
  step.run now

variable {α β : Type}

theorem advance_bind (first : Reading α) (next : α → Reading β) (now middle : Progress) (value : α)
    (done : Reading.advance first now = (.ok value, middle)) :
    Reading.advance (first >>= next) now = Reading.advance (next value) middle := by
  simp only [Reading.advance, ExceptT.run, bind, ExceptT.bind, ExceptT.mk, StateT.bind] at done ⊢
  rw [done]
  rfl

theorem advance_bind_ok (first : Reading α) (next : α → Reading β) (now after : Progress)
    (result : β) :
    Reading.advance (first >>= next) now = (.ok result, after) ↔
      ∃ value middle, Reading.advance first now = (.ok value, middle) ∧
        Reading.advance (next value) middle = (.ok result, after) := by
  simp only [Reading.advance, ExceptT.run, bind, ExceptT.bind, ExceptT.mk, StateT.bind]
  rcases first now with ⟨ending | value, middle⟩
  · constructor
    · intro done
      change (Except.error ending, middle) = (Except.ok result, after) at done
      cases done
    · rintro ⟨_, _, same, _⟩
      cases same
  · simp [ExceptT.bindCont]

theorem advance_get (now : Progress) : Reading.advance get now = (.ok now, now) := rfl

theorem advance_pure (value : α) (now : Progress) :
    Reading.advance (pure value) now = (.ok value, now) := rfl

theorem takeBits_byte (byte : UInt8) (rest : Bytes) (output : Array UInt8) (limit : Nat) :
    Reading.advance (takeBits 8) ⟨byte :: rest, 0, output, limit⟩ =
      (.ok byte.toNat, ⟨rest, 0, output, limit⟩) := by
  have bits : byte.toNat >>> 0 % 2 + 2 * (byte.toNat >>> 1 % 2 + 2 * (byte.toNat >>> 2 % 2 +
      2 * (byte.toNat >>> 3 % 2 + 2 * (byte.toNat >>> 4 % 2 + 2 * (byte.toNat >>> 5 % 2 +
        2 * (byte.toNat >>> 6 % 2 + 2 * (byte.toNat >>> 7 % 2 + 2 * 0))))))) = byte.toNat := by
    have small := byte.toNat_lt
    simp only [Nat.shiftRight_eq_div_pow]
    omega
  rw [← bits]
  rfl

theorem takeBits_add (first second low high : Nat) (now middle after : Progress)
    (front : Reading.advance (takeBits first) now = (.ok low, middle))
    (back : Reading.advance (takeBits second) middle = (.ok high, after)) :
    Reading.advance (takeBits (first + second)) now =
      (.ok (low + Nat.pow 2 first * high), after) := by
  induction first generalizing now low with
  | zero =>
      rw [takeBits, advance_pure] at front
      cases front
      simpa using back
  | succ first ih =>
      rw [takeBits, advance_bind_ok] at front
      obtain ⟨value, next, bit, front⟩ := front
      rw [advance_bind_ok] at front
      obtain ⟨rest, later, bits, front⟩ := front
      rw [advance_pure] at front
      cases front
      rw [Nat.succ_add, takeBits, advance_bind _ _ _ _ _ bit,
        advance_bind _ _ _ _ _ (ih rest next bits), advance_pure]
      have doubled : Nat.pow 2 (first + 1) = 2 * Nat.pow 2 first := Nat.pow_succ'
      congr 2
      rw [doubled, Nat.mul_add, Nat.mul_assoc, Nat.add_assoc]

theorem takeBits_word (low high : UInt8) (rest : Bytes) (output : Array UInt8) (limit : Nat) :
    Reading.advance (takeBits 16) ⟨low :: high :: rest, 0, output, limit⟩ =
      (.ok (low.toNat + 256 * high.toNat), ⟨rest, 0, output, limit⟩) :=
  takeBits_add 8 8 _ _ _ _ _ (takeBits_byte low _ output limit)
    (takeBits_byte high rest output limit)

theorem copyStored_all (data rest : Bytes) (output : Array UInt8) (limit : Nat)
    (room : output.size + data.length ≤ limit) :
    Reading.advance (copyStored data.length) ⟨data ++ rest, 0, output, limit⟩ =
      (.ok (), ⟨rest, 0, output ++ data, limit⟩) := by
  induction data generalizing output with
  | nil => simp [copyStored, advance_pure]
  | cons byte data ih =>
      have more : output.size < limit := by
        simp only [List.length_cons] at room
        omega
      have put : Reading.advance (emit byte) ⟨data ++ rest, 0, output, limit⟩ =
          (.ok (), ⟨data ++ rest, 0, output.push byte, limit⟩) := by
        rw [emit, advance_bind _ _ _ _ _ (advance_get _)]
        simp only [more, if_true]
        rfl
      rw [List.length_cons, copyStored, advance_bind _ _ _ _ _ (advance_get _)]
      have here : ¬output.size = limit := by omega
      simp only [List.cons_append, List.isEmpty_cons, Bool.false_eq_true, if_false, here]
      rw [advance_bind takeByte _ _ ⟨data ++ rest, 0, output, limit⟩ byte rfl,
        advance_bind _ _ _ _ _ put, ih (output.push byte) (by simp at room ⊢; omega)]
      simp

def longestBlock : Nat := 65535

def storedBlock (mark : UInt8) (content : Bytes) : Bytes :=
  mark :: (Bytes.number 2 content.length ++
    (Bytes.number 2 (longestBlock - content.length) ++ content))

def storedBlocks : (full : Nat) → (content : Bytes) → Bytes
  | 0, content => storedBlock 1 content
  | full + 1, content =>
      storedBlock 0 (content.take longestBlock) ++ storedBlocks full (content.drop longestBlock)

def storing (content : Bytes) : Bytes :=
  storedBlocks (content.length / longestBlock) content

theorem takeBits_number (value : Nat) (rest : Bytes) (output : Array UInt8) (limit : Nat)
    (fits : value ≤ longestBlock) :
    Reading.advance (takeBits 16) ⟨Bytes.number 2 value ++ rest, 0, output, limit⟩ =
      (.ok value, ⟨rest, 0, output, limit⟩) := by
  have bound : longestBlock = 65535 := rfl
  have whole : (UInt8.ofNat (value % 256)).toNat + 256 * (UInt8.ofNat (value / 256 % 256)).toNat =
      value := by
    simp only [UInt8.toNat_ofNat']
    omega
  have word := takeBits_word (UInt8.ofNat (value % 256)) (UInt8.ofNat (value / 256 % 256)) rest
    output limit
  rw [whole] at word
  exact word

theorem inflateStored_block (mark : UInt8) (content rest : Bytes) (output : Array UInt8)
    (limit : Nat) (short : content.length ≤ longestBlock)
    (room : output.size + content.length ≤ limit) :
    Reading.advance inflateStored ⟨storedBlock mark content ++ rest, 3, output, limit⟩ =
      (.ok (), ⟨rest, 0, output ++ content, limit⟩) := by
  have sum : content.length + (longestBlock - content.length) = 65535 := Nat.add_sub_cancel' short
  have body : storedBlock mark content ++ rest = mark :: (Bytes.number 2 content.length ++
      (Bytes.number 2 (longestBlock - content.length) ++ (content ++ rest))) := by
    simp [storedBlock]
  rw [inflateStored, body, advance_bind alignToByte _ _ _ () rfl]
  simp only [Nat.succ_ne_zero, if_false, List.tail_cons]
  rw [advance_bind _ _ _ _ _ (takeBits_number content.length _ output limit short),
    advance_bind _ _ _ _ _ (takeBits_number _ _ output limit (Nat.sub_le _ _)), if_pos sum,
    copyStored_all content rest output limit room]

theorem inflateBlocks_next (budget fuel : Nat) (last : Bool) (content rest : Bytes)
    (output : Array UInt8) (limit : Nat) (short : content.length ≤ longestBlock)
    (room : output.size + content.length ≤ limit) :
    Reading.advance (inflateBlocks budget (fuel + 1))
        ⟨storedBlock (if last then 1 else 0) content ++ rest, 0, output, limit⟩ =
      if last then (.ok (), ⟨rest, 0, output ++ content, limit⟩)
      else Reading.advance (inflateBlocks budget fuel) ⟨rest, 0, output ++ content, limit⟩ := by
  generalize marked : (if last then 1 else 0 : UInt8) = mark
  have block := inflateStored_block mark content rest output limit short room
  have bit : Reading.advance takeBit ⟨storedBlock mark content ++ rest, 0, output, limit⟩ =
      (.ok (mark.toNat >>> 0 % 2), ⟨storedBlock mark content ++ rest, 1, output, limit⟩) := rfl
  have kind : Reading.advance (takeBits 2)
      ⟨storedBlock mark content ++ rest, 1, output, limit⟩ =
      (.ok (mark.toNat >>> 1 % 2 + 2 * (mark.toNat >>> 2 % 2 + 2 * 0)),
        ⟨storedBlock mark content ++ rest, 3, output, limit⟩) := rfl
  have values : mark.toNat >>> 0 % 2 = (if last then 1 else 0) ∧
      mark.toNat >>> 1 % 2 + 2 * (mark.toNat >>> 2 % 2 + 2 * 0) = 0 := by
    subst marked
    cases last <;> decide
  rw [values.1] at bit
  rw [values.2] at kind
  rw [inflateBlocks, advance_bind _ _ _ _ _ bit, advance_bind _ _ _ _ _ kind]
  simp only [if_true]
  rw [advance_bind _ _ _ _ _ block]
  cases last <;> rfl

-- By recursion on the full blocks; the fuel outlasts them.
theorem inflateBlocks_stored (budget fuel full : Nat) (content : Bytes) (output : Array UInt8)
    (limit : Nat) (enough : full < fuel)
    (rest : content.length - full * longestBlock ≤ longestBlock)
    (room : output.size + content.length ≤ limit) :
    Reading.advance (inflateBlocks budget fuel) ⟨storedBlocks full content, 0, output, limit⟩ =
      (.ok (), ⟨[], 0, output ++ content, limit⟩) := by
  induction full generalizing fuel content output with
  | zero =>
      obtain ⟨fuel, rfl⟩ := Nat.exists_eq_succ_of_ne_zero (Nat.ne_of_gt enough)
      have short : content.length ≤ longestBlock := by simpa using rest
      have block := inflateBlocks_next budget fuel true content [] output limit short room
      simpa [storedBlocks] using block
  | succ full ih =>
      obtain ⟨fuel, rfl⟩ := Nat.exists_eq_succ_of_ne_zero (Nat.ne_of_gt (Nat.zero_lt_of_lt enough))
      have parts : (content.take longestBlock).length + (content.drop longestBlock).length =
          content.length := by
        rw [← List.length_append, List.take_append_drop]
      have block := inflateBlocks_next budget fuel false (content.take longestBlock)
        (storedBlocks full (content.drop longestBlock)) output limit (List.length_take_le _ _)
        (by omega)
      have grown : (output ++ content.take longestBlock).size =
          output.size + (content.take longestBlock).length := by
        rw [← Array.length_toList, Array.toList_appendList, List.length_append, Array.length_toList]
      have fewer : (content.drop longestBlock).length - full * longestBlock ≤ longestBlock := by
        rw [List.length_drop, Nat.sub_sub, Nat.add_comm, ← Nat.succ_mul]
        exact rest
      have others := ih fuel (content.drop longestBlock) (output ++ content.take longestBlock)
        (by omega) fewer (by omega)
      rw [storedBlocks]
      simp only [Bool.false_eq_true, if_false] at block
      have whole : output ++ content.take longestBlock ++ content.drop longestBlock =
          output ++ content := by
        apply Array.toList_inj.mp
        simp only [Array.toList_appendList, List.append_assoc, List.take_append_drop]
      rw [block, others, whole]

theorem storedBlocks_long (full : Nat) (content : Bytes) :
    full < (storedBlocks full content).length := by
  induction full generalizing content with
  | zero => exact Nat.succ_pos _
  | succ full ih =>
      have more := ih (content.drop longestBlock)
      simp only [storedBlocks, storedBlock, List.cons_append, List.length_cons, List.length_append]
      omega

theorem inverts_storing : Inverts storing := by
  intro content
  have long := storedBlocks_long (content.length / longestBlock) content
  have done := inflateBlocks_stored (8 * (storing content).length + 400)
    (8 * (storing content).length + 400) (content.length / longestBlock) content #[] content.length
    (by rw [storing]; omega) (by simp only [longestBlock]; omega) (by simp)
  rw [inflate]
  simp only [Reading.advance] at done
  rw [storing] at done ⊢
  simp [done]

def packing (known packed content : Bytes) : Bytes :=
  if content = known then packed else storing content

theorem inverts_packing (known packed : Bytes)
    (back : inflate known.length packed = ⟨known, .complete⟩) : Inverts (packing known packed) := by
  intro content
  by_cases same : content = known
  · rw [packing, if_pos same, same, back]
  · rw [packing, if_neg same, inverts_storing]

end DexGraft.Deflate
