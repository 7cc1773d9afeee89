import DexGraft.Proofs.Deflate.Stored

/-!
Room for the output. The limit can only end a decompression; one that comes to its
end below some limit never met it, and a higher limit changes nothing. One that met
it has filled its room, and with more room it only adds to what it has.
-/
namespace DexGraft.Deflate

def Progress.within (now : Progress) (room : Nat) : Progress :=
  { now with limit := room }

def Progress.Inside (now : Progress) : Prop :=
  now.output.size ≤ now.limit

variable {α β : Type}

/-- A step beside the same step with more room: it ends in the same way, or the first one has filled
its room and the other one has put out no less. -/
inductive Beside (room : Nat) :
    Except Ending α × Progress → Except Ending α × Progress → Prop
  | alike (outcome : Except Ending α) (after : Progress) (free : outcome ≠ .error .full) :
      Beside room (outcome, after) (outcome, after.within room)
  | farther (outcome : Except Ending α) (after later : Progress)
      (filled : after.output.size = after.limit)
      (more : after.output.toList <+: later.output.toList) :
      Beside room (.error .full, after) (outcome, later)

/-- What a step leaves, and what it would leave with more room. -/
structure Steady (room : Nat) (now : Progress)
    (left wider : Except Ending α × Progress) : Prop where
  inside : left.2.Inside
  limit : left.2.limit = now.limit
  grown : now.output.toList <+: left.2.output.toList
  beside : Beside room left wider

/-- However much room there is, the step stays inside and adds to the output. -/
def Roomy (step : Reading α) : Prop :=
  ∀ (now : Progress) (room : Nat), now.Inside → now.limit ≤ room →
    Steady room now (step.advance now) (step.advance (now.within room))

theorem advance_bind_error (first : Reading α) (next : α → Reading β) (now after : Progress)
    (ending : Ending) (failed : Reading.advance first now = (.error ending, after)) :
    Reading.advance (first >>= next) now = (.error ending, after) := by
  simp only [Reading.advance, ExceptT.run, bind, ExceptT.bind, ExceptT.mk, StateT.bind] at failed ⊢
  rw [failed]
  rfl

theorem Progress.Inside.wider {now : Progress} (inside : now.Inside) (room : Nat)
    (more : now.limit ≤ room) : (now.within room).Inside :=
  Nat.le_trans inside more

theorem steady_still (now after : Progress) (outcome : Except Ending α) (room : Nat)
    (inside : now.Inside) (output : after.output = now.output) (limit : after.limit = now.limit)
    (free : outcome ≠ .error .full) :
    Steady room now (outcome, after) (outcome, after.within room) := by
  refine ⟨?_, limit, output.symm ▸ List.prefix_refl _, .alike outcome after free⟩
  rw [Progress.Inside, output, limit]
  exact inside

theorem roomy_pure (value : α) : Roomy (pure value) :=
  fun now room inside _ => steady_still now now (.ok value) room inside rfl rfl nofun

theorem roomy_throw (ending : Ending) (other : ending ≠ .full) : Roomy (throw ending : Reading α) :=
  fun now room inside _ => steady_still now now (.error ending) room inside rfl rfl
    fun same => other (Except.error.inj same)

theorem roomy_bind (first : Reading α) (next : α → Reading β) (front : Roomy first)
    (back : ∀ value, Roomy (next value)) : Roomy (first >>= next) := by
  intro now room inside more
  have here := front now room inside more
  have there := front (now.within room) room (inside.wider room more) (Nat.le_refl room)
  rcases begun : first.advance now with ⟨ending | value, middle⟩
  · rw [begun] at here
    rw [advance_bind_error _ next _ _ _ begun]
    obtain ⟨still, limit, grown, beside⟩ := here
    rcases wide : first.advance (now.within room) with ⟨outcome, later⟩
    rw [wide] at beside there
    generalize failed : (Except.error ending : Except Ending α) = narrow at beside
    cases beside with
    | alike _ _ free =>
        subst failed
        rw [advance_bind_error _ next _ _ _ wide]
        refine ⟨still, limit, grown, .alike _ _ fun same => free ?_⟩
        rw [Except.error.inj same]
    | farther _ _ _ filled onward =>
        cases failed
        cases outcome with
        | error ending =>
            rw [advance_bind_error _ next _ _ _ wide]
            exact ⟨still, limit, grown, .farther _ _ _ filled onward⟩
        | ok value =>
            rw [advance_bind _ next _ _ _ wide]
            have last :=
              (back value later room there.inside (by rw [there.limit]; exact Nat.le_refl _)).grown
            exact ⟨still, limit, grown, .farther _ _ _ filled (onward.trans last)⟩
  · rw [begun] at here
    rw [advance_bind _ next _ _ _ begun]
    obtain ⟨still, limit, grown, beside⟩ := here
    rcases wide : first.advance (now.within room) with ⟨outcome, later⟩
    rw [wide] at beside
    generalize passed : (Except.ok value : Except Ending α) = narrow at beside
    cases beside with
    | alike =>
        subst passed
        rw [advance_bind _ next _ _ _ wide]
        have last := back value middle room still (by rw [limit]; exact more)
        exact ⟨last.inside, last.limit.trans limit, grown.trans last.grown, last.beside⟩
    | farther => cases passed

theorem roomy_if (condition : Prop) [Decidable condition] (yes no : Reading α)
    (first : Roomy yes) (second : Roomy no) : Roomy (if condition then yes else no) := by
  by_cases holds : condition
  · rwa [if_pos holds]
  · rwa [if_neg holds]

theorem roomy_get (next : Progress → Reading α)
    (each : ∀ now room, now.Inside → now.limit ≤ room → Steady room now ((next now).advance now)
      ((next (now.within room)).advance (now.within room))) : Roomy (get >>= next) := by
  intro now room inside more
  rw [advance_bind _ _ _ _ _ (advance_get now), advance_bind _ _ _ _ _ (advance_get _)]
  exact each now room inside more

theorem roomy_takeBit : Roomy takeBit := by
  refine roomy_get _ fun now room inside more => ?_
  obtain ⟨ahead, taken, output, limit⟩ := now
  cases ahead with
  | nil => exact steady_still _ _ (.error .starved) room inside rfl rfl nofun
  | cons byte rest =>
      simp only [Progress.within]
      by_cases begun : taken < 7
      · simp only [begun, if_true]
        exact steady_still _ ⟨byte :: rest, taken + 1, output, limit⟩
          (.ok (byte.toNat >>> taken % 2)) room inside rfl rfl nofun
      · simp only [begun, if_false]
        exact steady_still _ ⟨rest, 0, output, limit⟩ (.ok (byte.toNat >>> taken % 2)) room inside
          rfl rfl nofun

theorem roomy_takeByte : Roomy takeByte := by
  refine roomy_get _ fun now room inside more => ?_
  obtain ⟨ahead, taken, output, limit⟩ := now
  cases ahead with
  | nil => exact steady_still _ _ (.error .starved) room inside rfl rfl nofun
  | cons byte rest =>
      exact steady_still _ ⟨rest, taken, output, limit⟩ (.ok byte) room inside rfl rfl nofun

theorem roomy_alignToByte : Roomy alignToByte := by
  intro now room inside more
  obtain ⟨ahead, taken, output, limit⟩ := now
  by_cases whole : taken = 0
  · subst whole
    exact steady_still _ _ (.ok ()) room inside rfl rfl nofun
  · have moved : ∀ limit, alignToByte.advance ⟨ahead, taken, output, limit⟩ =
        (.ok (), ⟨ahead.tail, 0, output, limit⟩) := by
      intro limit
      change (Except.ok (), if taken = 0 then _ else _) = _
      rw [if_neg whole]
    rw [moved, Progress.within, moved]
    exact steady_still _ ⟨ahead.tail, 0, output, limit⟩ (.ok ()) room inside rfl rfl nofun

theorem roomy_emit (byte : UInt8) : Roomy (emit byte) := by
  refine roomy_get _ fun now room inside more => ?_
  by_cases below : now.output.size < now.limit
  · have still : (now.within room).output.size < (now.within room).limit :=
      Nat.lt_of_lt_of_le below more
    rw [if_pos below, if_pos still]
    refine ⟨?_, rfl, ?_, .alike (.ok ()) _ nofun⟩
    · change (now.output.push byte).size ≤ now.limit
      rw [Array.size_push]
      exact below
    · change now.output.toList <+: (now.output.push byte).toList
      rw [Array.toList_push]
      exact List.prefix_append _ _
  · rw [if_neg below]
    have filled : now.output.size = now.limit := Nat.le_antisymm inside (Nat.not_lt.mp below)
    refine ⟨inside, rfl, List.prefix_refl _, ?_⟩
    by_cases still : (now.within room).output.size < (now.within room).limit
    · rw [if_pos still]
      refine .farther (.ok ()) now _ filled ?_
      change now.output.toList <+: (now.output.push byte).toList
      rw [Array.toList_push]
      exact List.prefix_append _ _
    · rw [if_neg still]
      exact .farther (.error .full) now _ filled (List.prefix_refl _)

theorem steady_full (rest : Reading α) (roomy : Roomy rest) (now : Progress) (room : Nat)
    (inside : now.Inside) (more : now.limit ≤ room) :
    Steady room now
      (Reading.advance (if now.output.size = now.limit then throw .full else rest) now)
      (Reading.advance (if now.output.size = room then throw .full else rest)
        (now.within room)) := by
  by_cases filled : now.output.size = now.limit
  · rw [if_pos filled]
    refine ⟨inside, rfl, List.prefix_refl _, ?_⟩
    by_cases still : now.output.size = room
    · rw [if_pos still]
      exact .farther (.error .full) now _ filled (List.prefix_refl _)
    · rw [if_neg still]
      have onward := roomy (now.within room) room (inside.wider room more) (Nat.le_refl room)
      exact .farther _ now _ filled onward.grown
  · have below : now.output.size < now.limit := Nat.lt_of_le_of_ne inside filled
    rw [if_neg filled, if_neg (Nat.ne_of_lt (Nat.lt_of_lt_of_le below more))]
    exact roomy now room inside more

theorem roomy_takeBits (width : Nat) : Roomy (takeBits width) := by
  induction width with
  | zero => exact roomy_pure 0
  | succ width ih =>
      exact roomy_bind _ _ roomy_takeBit fun low => roomy_bind _ _ ih fun high => roomy_pure _

theorem roomy_takeCodeFrom (symbols : Array Nat) (code first index : Nat) (counts : List Nat) :
    Roomy (takeCodeFrom symbols code first index counts) := by
  induction counts generalizing code first index with
  | nil => exact roomy_pure none
  | cons count rest ih =>
      refine roomy_bind _ _ roomy_takeBit fun bit => ?_
      exact roomy_if _ _ _ (roomy_pure _) (ih _ _ _)

theorem roomy_takeCode (code : Code) : Roomy (takeCode code) :=
  roomy_takeCodeFrom _ _ _ _ _

theorem roomy_takeExtended (bases : List (Nat × Nat)) (symbol : Nat) :
    Roomy (takeExtended bases symbol) := by
  unfold takeExtended
  split
  · exact roomy_throw .corrupt nofun
  · exact roomy_bind _ _ (roomy_takeBits _) fun extra => roomy_pure _

theorem roomy_copyBack (distance length : Nat) : Roomy (copyBack distance length) := by
  induction length with
  | zero => exact roomy_pure ()
  | succ length ih =>
      refine roomy_get _ fun now room inside more => ?_
      refine steady_full _ (roomy_if _ _ _ (roomy_throw .corrupt nofun) ?_) now room inside more
      exact roomy_bind _ _ (roomy_emit _) fun _ => ih

theorem roomy_copyStored (length : Nat) : Roomy (copyStored length) := by
  induction length with
  | zero => exact roomy_pure ()
  | succ length ih =>
      refine roomy_get _ fun now room inside more => ?_
      change Steady room now (Reading.advance (if now.ahead.isEmpty = true then throw .starved else _)
        now) (Reading.advance (if now.ahead.isEmpty = true then throw .starved else _) _)
      by_cases starved : now.ahead.isEmpty = true
      · rw [if_pos starved, if_pos starved]
        exact roomy_throw .starved nofun now room inside more
      · rw [if_neg starved, if_neg starved]
        refine steady_full _ ?_ now room inside more
        exact roomy_bind _ _ roomy_takeByte fun byte => roomy_bind _ _ (roomy_emit byte) fun _ => ih

theorem roomy_inflateStored : Roomy inflateStored := by
  refine roomy_bind _ _ roomy_alignToByte fun _ => roomy_bind _ _ (roomy_takeBits 16) fun length =>
    roomy_bind _ _ (roomy_takeBits 16) fun check => ?_
  exact roomy_if _ _ _ (roomy_copyStored length) (roomy_throw .corrupt nofun)

theorem roomy_inflateSymbols (literals distances : Code) (fuel : Nat) :
    Roomy (inflateSymbols literals distances fuel) := by
  induction fuel with
  | zero => exact roomy_throw .starved nofun
  | succ fuel ih =>
      refine roomy_bind _ _ (roomy_takeCode literals) fun symbol => ?_
      cases symbol with
      | none => exact roomy_throw .corrupt nofun
      | some symbol =>
          refine roomy_if _ _ _ (roomy_pure ()) (roomy_if _ _ _ ?_ ?_)
          · exact roomy_bind _ _ (roomy_emit _) fun _ => ih
          · refine roomy_bind _ _ (roomy_takeExtended _ _) fun length =>
              roomy_bind _ _ (roomy_takeCode distances) fun far => ?_
            cases far with
            | none => exact roomy_throw .corrupt nofun
            | some far =>
                exact roomy_bind _ _ (roomy_takeExtended _ _) fun distance =>
                  roomy_bind _ _ (roomy_copyBack _ _) fun _ => ih

theorem roomy_takeLengthLengths (count : Nat) : Roomy (takeLengthLengths count) := by
  induction count with
  | zero => exact roomy_pure []
  | succ count ih =>
      exact roomy_bind _ _ (roomy_takeBits 3) fun length => roomy_bind _ _ ih fun _ => roomy_pure _

theorem roomy_takeLengths (code : Code) (wanted fuel : Nat) (sofar : List Nat) :
    Roomy (takeLengths code wanted fuel sofar) := by
  induction fuel generalizing sofar with
  | zero => exact roomy_throw .starved nofun
  | succ fuel ih =>
      refine roomy_if _ _ _ (roomy_pure _) (roomy_bind _ _ (roomy_takeCode code) fun symbol => ?_)
      refine roomy_if _ _ _ (ih _) ?_
      extract_lets onward
      have next (run : Nat × Nat) : Roomy (onward run) :=
        roomy_if _ _ _ (roomy_throw .corrupt nofun) (ih _)
      refine roomy_if _ _ _ (roomy_bind _ _ (roomy_takeBits 2) fun count => ?_) ?_
      · cases sofar with
        | nil => exact roomy_throw .corrupt nofun
        | cons previous _ => exact next (previous, 3 + count)
      · exact roomy_if _ _ _ (roomy_bind _ _ (roomy_takeBits 3) fun count => next (0, 3 + count))
          (roomy_bind _ _ (roomy_takeBits 7) fun count => next (0, 11 + count))

theorem roomy_inflateDynamic (fuel : Nat) : Roomy (inflateDynamic fuel) := by
  have wrong : Roomy (throw .corrupt : Reading Unit) := roomy_throw .corrupt nofun
  refine roomy_bind _ _ (roomy_takeBits 5) fun literals => roomy_bind _ _ (roomy_takeBits 5)
    fun distances => roomy_bind _ _ (roomy_takeBits 4) fun lengths => ?_
  refine roomy_if _ _ _ wrong ?_
  refine roomy_bind _ _ (roomy_takeLengthLengths _) fun given => ?_
  refine roomy_if _ _ _ wrong ?_
  refine roomy_bind _ _ (roomy_takeLengths _ _ _ _) fun lengths => ?_
  refine roomy_if _ _ _ wrong ?_
  exact roomy_if _ _ _ (roomy_inflateSymbols _ _ _) wrong

theorem roomy_inflateBlocks (budget fuel : Nat) : Roomy (inflateBlocks budget fuel) := by
  induction fuel with
  | zero => exact roomy_throw .starved nofun
  | succ fuel ih =>
      refine roomy_bind _ _ roomy_takeBit fun last => roomy_bind _ _ (roomy_takeBits 2)
        fun kind => ?_
      extract_lets onward
      have next (block : Unit) : Roomy (onward block) := roomy_if _ _ _ (roomy_pure _) ih
      refine roomy_if _ _ _ (roomy_bind _ _ roomy_inflateStored next) ?_
      refine roomy_if _ _ _ (roomy_bind _ _ (roomy_inflateSymbols _ _ _) next) ?_
      refine roomy_if _ _ _ (roomy_bind _ _ (roomy_inflateDynamic _) next) ?_
      exact roomy_throw .corrupt nofun

/-- More room makes no difference, or the first decompression has filled what it had. -/
theorem inflate_wider (limit room : Nat) (packed : Bytes) (more : limit ≤ room) :
    inflate room packed = inflate limit packed ∨ (inflate limit packed).ending = .full ∧
      (inflate limit packed).output.length = limit ∧
        (inflate limit packed).output <+: (inflate room packed).output := by
  have steady := roomy_inflateBlocks (8 * packed.length + 400) (8 * packed.length + 400)
    ⟨packed, 0, #[], limit⟩ room (Nat.zero_le _) more
  simp only [Reading.advance, Progress.within] at steady
  simp only [inflate]
  generalize (inflateBlocks (8 * packed.length + 400) (8 * packed.length + 400)).run
    ⟨packed, 0, #[], limit⟩ = narrow at steady ⊢
  generalize (inflateBlocks (8 * packed.length + 400) (8 * packed.length + 400)).run
    ⟨packed, 0, #[], room⟩ = wide at steady ⊢
  obtain ⟨_, kept, _, beside⟩ := steady
  cases beside with
  | alike => exact Or.inl rfl
  | farther outcome after later filled onward =>
      refine Or.inr ⟨rfl, ?_, onward⟩
      rw [Array.length_toList, filled]
      exact kept

theorem inflate_room (limit room : Nat) (packed : Bytes) (more : limit ≤ room)
    (free : (inflate limit packed).ending ≠ .full) :
    inflate room packed = inflate limit packed :=
  (inflate_wider limit room packed more).resolve_right fun filled => free filled.1

theorem inflate_take (size limit room : Nat) (packed : Bytes) (enough : size ≤ limit)
    (more : limit ≤ room) :
    (inflate room packed).output.take size = (inflate limit packed).output.take size := by
  rcases inflate_wider limit room packed more with same | ⟨_, long, onward⟩
  · rw [same]
  · obtain ⟨rest, whole⟩ := onward
    rw [← whole, List.take_append_of_le_length (by omega)]

end DexGraft.Deflate
