import DexGraft.Proofs.Files.Frames

/-!
Where a path can lead at all. There are no links, so its names alone decide that;
the files only decide whether it leads there.
-/
namespace DexGraft.Files

def onward (place : Place) (names : List String) : Place :=
  names.foldl (fun place name => if name = ".." then place.dropLast else place ++ [name]) place

/-- Where a path leads if it leads anywhere. -/
def destination (here : Place) (path : Path) : Place :=
  onward (if path.isAbsolute then [] else here) path.parts

theorem walk_onward (files : Files) (place goal : Place) (names : List String)
    (reached : files.walk place names = .ok goal) : goal = onward place names := by
  induction names generalizing place with
  | nil =>
      cases reached
      rfl
  | cons name rest ih =>
      obtain ⟨_, ⟨up, later⟩ | ⟨down, _, later⟩⟩ := (walk_cons ..).mp reached
      · rw [ih _ later, onward, onward, List.foldl_cons, if_pos up]
      · rw [ih _ later, onward, onward, List.foldl_cons, if_neg down]

theorem resolve_destination (files : Files) (path : Path) (place : Place)
    (reached : files.resolve path = .ok place) : place = destination files.here path :=
  walk_onward files _ _ _ ((resolve_eq_ok ..).mp reached).2

theorem destination_child (here : Place) (base : Path) (name : String) (plain : PlainName name) :
    destination here (base / name) = destination here base ++ [name] := by
  rw [child_eq base name plain]
  simp [destination, onward, Path.isAbsolute, plain.down]

theorem clearTree_within (files : Files) (path : Path) (named : destination files.here path ≠ []) :
    SameOutside (destination files.here path) files (files.clearTree path) := by
  unfold clearTree
  cases removed : files.removeTree path with
  | error cause => exact SameOutside.refl _ files
  | ok after =>
      obtain ⟨place, reached, _, rfl⟩ := removeTree_ok files after path removed
      rw [← resolve_destination files path place reached] at named ⊢
      exact sameOutside_dropUnder files place named

theorem isDirectory_found (files : Files) (path : Path)
    (there : files.isDirectory path = .ok true) :
    files.find path = .ok .directory ∧ files.exists? path = .ok true := by
  unfold isDirectory at there
  cases found : files.find? path with
  | error cause => simp [found, bind, Except.bind] at there
  | ok node? =>
      obtain _ | _ | _ := node?
      · simp [found, bind, Except.bind, pure, Except.pure] at there
      · exact ⟨find_of_some _ _ _ found, by simp [exists?, found, bind, Except.bind, pure, Except.pure]⟩
      · simp [found, bind, Except.bind, pure, Except.pure] at there

theorem isDirectory_removed (files : Files) (path : Path) (place : Place) (named : place ≠ [])
    (reached : files.resolve path = .ok place) :
    (files.dropUnder place).isDirectory path ≠ .ok true := by
  intro there
  obtain ⟨spot, again, node⟩ := (find_eq_ok ..).mp (isDirectory_found _ _ there).1
  have kept : ∀ other, (files.dropUnder place).node? other = some .directory →
      files.node? other = some .directory := by
    intro other there
    rw [node_dropUnder _ _ _ named] at there
    split at there
    · cases there
    · exact there
  have same := resolve_mono (files.dropUnder place) files path spot rfl kept again
  rw [reached] at same
  cases same
  rw [node_dropUnder _ _ _ named, if_pos (List.prefix_refl _)] at node
  cases node

theorem clearTree_gone (files : Files) (path : Path) (named : destination files.here path ≠ []) :
    (files.clearTree path).isDirectory path ≠ .ok true := by
  unfold clearTree
  cases removed : files.removeTree path with
  | ok after =>
      obtain ⟨place, reached, _, rfl⟩ := removeTree_ok files after path removed
      rw [← resolve_destination files path place reached] at named
      exact isDirectory_removed files path place named reached
  | error cause =>
      intro there
      obtain ⟨place, reached, node⟩ := (find_eq_ok ..).mp (isDirectory_found _ _ there).1
      simp [removeTree, reached, node, bind, Except.bind] at removed

theorem mem_onward (place : Place) (names : List String) (name : String)
    (member : name ∈ onward place names) : name ∈ place ++ names := by
  induction names generalizing place with
  | nil => simpa [onward] using member
  | cons next rest ih =>
      rw [onward, List.foldl_cons] at member
      have later := ih _ member
      split at later
      · rcases List.mem_append.mp later with up | down
        · exact List.mem_append_left _ (List.dropLast_subset place up)
        · exact List.mem_append_right _ (List.mem_cons_of_mem next down)
      · simpa using later

theorem walk_past (before after : Files) (place begun : Place) (names : List String)
    (same : SameOutside place before after)
    (past : ∀ front, front <+: names → ¬place <+: onward begun front) :
    after.walk begun names = before.walk begun names := by
  induction names generalizing begun with
  | nil => rfl
  | cons name rest ih =>
      have here : after.node? begun = before.node? begun :=
        same.rest begun (past [] List.nil_prefix)
      have next : ∀ step, onward begun [name] = step →
          after.walk step rest = before.walk step rest := by
        rintro _ rfl
        refine ih _ fun front short => ?_
        exact past (name :: front) (List.cons_prefix_cons.mpr ⟨rfl, short⟩)
      rw [walk, walk, here]
      split
      · rfl
      · rfl
      · split
        · exact next _ (by simp_all [onward])
        · split
          · rfl
          · exact next _ (by simp_all [onward])

theorem read_past (before after : Files) (place : Place) (path : Path)
    (same : SameOutside place before after)
    (past : ∀ front, front <+: path.parts → ¬place <+: onward (before.start path) front) :
    after.read path = before.read path := by
  have begun : after.start path = before.start path := by simp [start, same.here]
  have leads : after.resolve path = before.resolve path := by
    have walked := walk_past before after place (before.start path) path.parts same past
    rw [← begun] at walked
    unfold start at walked begun
    rw [begun] at walked
    unfold resolve
    rw [begun, walked]
  have found : after.find path = before.find path := by
    unfold find
    rw [leads]
    cases reached : before.resolve path with
    | error cause => rfl
    | ok spot =>
        have goal := walk_onward _ _ _ _ ((resolve_eq_ok ..).mp reached).2
        have there : after.node? spot = before.node? spot :=
          same.rest spot (goal ▸ past path.parts (List.prefix_refl _))
        simp only [bind, Except.bind, there]
  unfold Files.read
  rw [found]

theorem clearTree_read (files : Files) (base path : Path) (name : String) (plain : PlainName name)
    (apart : name ∉ files.start path ++ path.parts) :
    (files.clearTree (base / name)).read path = files.read path := by
  have goal : destination files.here (base / name) = destination files.here base ++ [name] :=
    destination_child files.here base name plain
  have same := clearTree_within files (base / name) (by simp [goal])
  refine read_past files _ _ path same fun front short under => apart ?_
  have member : name ∈ onward (files.start path) front :=
    under.subset (by rw [goal]; exact List.mem_append_right _ (List.mem_singleton_self name))
  rcases List.mem_append.mp (mem_onward _ _ _ member) with begun | named
  · exact List.mem_append_left _ begun
  · exact List.mem_append_right _ (short.subset named)

end DexGraft.Files
