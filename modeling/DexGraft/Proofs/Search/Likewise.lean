import DexGraft.Proofs.Files.Mirror
import DexGraft.Proofs.Search.Run

/-!
Tools that go by what they are given. Two calls with files of the same names and contents
are answered alike, and write the same to their outputs, wherever these are.
-/
namespace DexGraft.Search

open Files DexGraft.Action

/-- Two paths of one name and length at which, and under which, the same is to be seen. -/
structure Likewise (first second : Files) (path path' : Path) : Prop where
  named : path.name = path'.name
  peers : Peers path path'
  alike : (∃ left right, first.resolve path = .ok left ∧ second.resolve path' = .ok right ∧
      SameUnder left right first second) ∨
    (∀ left, first.resolve path ≠ .ok left) ∧ ∀ right, second.resolve path' ≠ .ok right

/-- Two answers of a tool: both went through, both are the same refusal in the tool's own words, or
both broke otherwise. -/
structure SameAnswer (own : String → Fault) (answer answer' : Except Fault Unit) : Prop where
  done : answer = .ok () ↔ answer' = .ok ()
  refused : ∀ text, answer = .error (own text) ↔ answer' = .error (own text)

/-- What the tools answer, and what they write to their outputs, depends on nothing but the names and
contents of what they are given. -/
structure Functional (toolbox : Toolbox) : Prop where
  disassemble : ∀ (session session' : Session) (image image' tree tree' : Path),
    Likewise session.files session'.files image image' →
      Likewise session.files session'.files tree tree' →
        SameAnswer .disassembly ((toolbox.disassemble image tree).perform session).1
            ((toolbox.disassemble image' tree').perform session').1 ∧
          Likewise ((toolbox.disassemble image tree).perform session).2.files
            ((toolbox.disassemble image' tree').perform session').2.files tree tree'
  assemble : ∀ (session session' : Session) (tree tree' image image' : Path),
    Likewise session.files session'.files tree tree' →
      Likewise session.files session'.files image image' →
        SameAnswer .assembly ((toolbox.assemble tree image).perform session).1
            ((toolbox.assemble tree' image').perform session').1 ∧
          Likewise ((toolbox.assemble tree image).perform session).2.files
            ((toolbox.assemble tree' image').perform session').2.files image image'

section

variable {files files' : Files} {path path' : Path}

theorem Likewise.cases (likewise : Likewise files files' path path') :
    (∃ left right, SameUnder left right files files' ∧ files.resolve path = .ok left ∧
        files'.resolve path' = .ok right ∧
        Mirrored left right [] (files.resolve path) (files'.resolve path')) ∨
      (∀ left, files.resolve path ≠ .ok left) ∧ ∀ right, files'.resolve path' ≠ .ok right := by
  rcases likewise.alike with ⟨left, right, reached, reached', same⟩ | barred
  · refine Or.inl ⟨left, right, same, reached, reached', ?_⟩
    rw [reached, reached']
    have both : Mirrored left right [] (.ok (left ++ [])) (.ok (right ++ [])) := .leads
    simpa using both
  · exact Or.inr barred

theorem refused {α : Type} (answer : Except Cause α) (never : ∀ value, answer ≠ .ok value) :
    ∃ cause, answer = .error cause := by
  cases answer with
  | ok value => exact absurd rfl (never value)
  | error cause => exact ⟨cause, rfl⟩

theorem Likewise.read (likewise : Likewise files files' path path') :
    (∃ content, files.read path = .ok content ∧ files'.read path' = .ok content) ∨
      ∃ cause cause', files.read path = .error cause ∧ files'.read path' = .error cause' := by
  rcases likewise.cases with ⟨left, right, same, _, _, mirrored⟩ | ⟨barred, barred'⟩
  · exact mirrored.read same
  · obtain ⟨cause, unread⟩ := refused (files.read path) fun content read => by
      obtain ⟨place, _, reached, _⟩ := (read_eq_ok ..).mp read
      exact barred place reached
    obtain ⟨cause', unread'⟩ := refused (files'.read path') fun content read => by
      obtain ⟨place, _, reached, _⟩ := (read_eq_ok ..).mp read
      exact barred' place reached
    exact Or.inr ⟨cause, cause', unread, unread'⟩

theorem Likewise.find (likewise : Likewise files files' path path') :
    (∃ node node', files.find path = .ok node ∧ files'.find path' = .ok node') ∨
      ∃ cause cause', files.find path = .error cause ∧ files'.find path' = .error cause' := by
  rcases likewise.cases with ⟨left, right, same, reached, reached', _⟩ | ⟨barred, barred'⟩
  · have here := same.here
    simp only [Files.find, reached, reached', bind, Except.bind]
    cases there : files.node? left with
    | none =>
        rw [(seen_free ..).mpr there] at here
        rw [(seen_free ..).mp here.symm]
        exact Or.inr ⟨_, _, rfl, rfl⟩
    | some node =>
        cases there' : files'.node? right with
        | none =>
            rw [(seen_free ..).mpr there', seen_free, there] at here
            cases here
        | some node' => exact Or.inl ⟨node, node', rfl, rfl⟩
  · obtain ⟨cause, missing⟩ := refused (files.find path) fun node found => by
      obtain ⟨place, reached, _⟩ := (find_eq_ok ..).mp found
      exact barred place reached
    obtain ⟨cause', missing'⟩ := refused (files'.find path') fun node found => by
      obtain ⟨place, reached, _⟩ := (find_eq_ok ..).mp found
      exact barred' place reached
    exact Or.inr ⟨cause, cause', missing, missing'⟩

theorem resolve_parent (files : Files) (base : Path) (name : String) (plain : PlainName name)
    (place : Place) (reached : files.resolve (base / name) = .ok place) :
    ∃ parent, files.resolve base = .ok parent := by
  rw [beyond_child _ _ plain] at reached
  obtain ⟨sayable, walked⟩ := (resolve_eq_ok ..).mp reached
  obtain ⟨parent, front, _⟩ := (walk_append ..).mp walked
  exact ⟨parent, (resolve_eq_ok ..).mpr ⟨sayable_front _ _ sayable, front⟩⟩

theorem Likewise.child (likewise : Likewise files files' path path') (name : String)
    (plain : PlainName name) : Likewise files files' (path / name) (path' / name) := by
  refine ⟨?_, ?_, ?_⟩
  · rw [child_name _ _ plain, child_name _ _ plain]
  · rw [beyond_child _ _ plain, beyond_child _ _ plain]
    exact likewise.peers.beyond [name]
  · rcases likewise.cases with ⟨left, right, same, reached, reached', _⟩ | ⟨barred, barred'⟩
    · have mirrored := resolve_mirrored likewise.peers [name] (follow_down [] name plain.down)
        reached reached' same
      rw [← beyond_child _ _ plain, ← beyond_child _ _ plain] at mirrored
      generalize files.resolve (path / name) = answer at mirrored
      generalize files'.resolve (path' / name) = answer' at mirrored
      cases mirrored with
      | leads => exact Or.inl ⟨_, _, rfl, rfl, same.deeper [name]⟩
      | unsayable => exact Or.inr ⟨by simp, by simp⟩
      | barred => exact Or.inr ⟨by simp, by simp⟩
    · refine Or.inr ⟨fun place reached => ?_, fun place reached => ?_⟩
      · obtain ⟨parent, upper⟩ := resolve_parent _ _ _ plain _ reached
        exact barred parent upper
      · obtain ⟨parent, upper⟩ := resolve_parent _ _ _ plain _ reached
        exact barred' parent upper

theorem Likewise.write (likewise : Likewise files files' path path') (content : Bytes) :
    (∃ after after', files.write path content = .ok after ∧
        files'.write path' content = .ok after' ∧ Likewise after after' path path') ∨
      ∃ cause cause', files.write path content = .error cause ∧
        files'.write path' content = .error cause' := by
  rcases likewise.cases with ⟨left, right, same, reached, reached', mirrored⟩ | ⟨barred, barred'⟩
  · rcases mirrored.write same content with ⟨mode, mode', done, done'⟩ | failed
    · refine Or.inl ⟨_, _, done, done', likewise.named, likewise.peers, Or.inl ⟨left, right, ?_⟩⟩
      obtain ⟨spot, _, leads, open_, _⟩ := write_ok _ _ _ _ done
      obtain ⟨spot', _, leads', open', _⟩ := write_ok _ _ _ _ done'
      cases reached.symm.trans leads
      cases reached'.symm.trans leads'
      have named := named_of_open files left open_
      have named' := named_of_open files' right open'
      rw [List.append_nil, List.append_nil]
      refine ⟨resolve_put _ _ _ _ _ open_ reached, resolve_put _ _ _ _ _ open' reached', ?_⟩
      simpa using same.put [] (by simpa using named) (by simpa using named') (.file content mode)
        (.file content mode') rfl
    · exact Or.inr failed
  · obtain ⟨cause, failed⟩ := refused (files.write path content) fun after done => by
      obtain ⟨place, _, reached, _⟩ := write_ok _ _ _ _ done
      exact barred place reached
    obtain ⟨cause', failed'⟩ := refused (files'.write path' content) fun after done => by
      obtain ⟨place, _, reached, _⟩ := write_ok _ _ _ _ done
      exact barred' place reached
    exact Or.inr ⟨cause, cause', failed, failed'⟩

theorem Likewise.upward (likewise : Likewise files files' path path') (name : String)
    (plain : PlainName name) {content : Bytes} {after after' : Files}
    (done : files.write (path / name) content = .ok after)
    (done' : files'.write (path' / name) content = .ok after') :
    Likewise after after' path path' := by
  obtain ⟨spot, mode, leads, open_, rfl⟩ := write_ok _ _ _ _ done
  obtain ⟨spot', mode', leads', open', rfl⟩ := write_ok _ _ _ _ done'
  obtain ⟨parent, upper⟩ := resolve_parent _ _ _ plain _ leads
  rcases likewise.cases with ⟨left, right, same, reached, reached', _⟩ | ⟨barred, _⟩
  · obtain ⟨rfl, _⟩ := resolve_child _ _ _ _ _ plain reached leads
    obtain ⟨rfl, _⟩ := resolve_child _ _ _ _ _ plain reached' leads'
    exact ⟨likewise.named, likewise.peers, Or.inl ⟨left, right,
      resolve_put _ _ _ _ _ open_ reached, resolve_put _ _ _ _ _ open' reached',
      same.put [name] (by simp) (by simp) _ _ rfl⟩⟩
  · exact absurd upper (barred parent)

theorem sameAnswer_broken (own : String → Fault) (cause cause' : Cause)
    (other : ∀ text cause, own text ≠ .cause cause) :
    SameAnswer own (.error (.cause cause)) (.error (.cause cause')) := by
  refine ⟨⟨nofun, nofun⟩, fun text => ⟨fun same => ?_, fun same => ?_⟩⟩
  · injection same with same
    exact absurd same.symm (other text cause)
  · injection same with same
    exact absurd same.symm (other text cause')

theorem sameAnswer_done (own : String → Fault) : SameAnswer own (.ok ()) (.ok ()) :=
  ⟨⟨fun _ => rfl, fun _ => rfl⟩, fun _ => ⟨nofun, nofun⟩⟩

end

theorem plainTools_functional : Functional plainTools where
  disassemble session session' image image' tree tree' original drawn := by
    have other : ∀ text cause, Fault.disassembly text ≠ .cause cause := fun _ _ => nofun
    simp only [plainTools, perform_bind, perform_ask, perform_change]
    rcases drawn.find with ⟨_, _, there, there'⟩ | ⟨_, _, there, there'⟩
    · simp only [there, there', Except.mapError]
      rcases original.read with ⟨content, read, read'⟩ | ⟨_, _, read, read'⟩
      · simp only [read, read']
        rcases (drawn.child "A.smali" plainClass_plain).write content with
          ⟨after, after', done, done', _⟩ | ⟨_, _, done, done'⟩
        · simp only [done, done']
          exact ⟨sameAnswer_done _, drawn.upward "A.smali" plainClass_plain done done'⟩
        · simp only [done, done']
          exact ⟨sameAnswer_broken _ _ _ other, drawn⟩
      · simp only [read, read']
        exact ⟨sameAnswer_broken _ _ _ other, drawn⟩
    · simp only [there, there', Except.mapError]
      exact ⟨sameAnswer_broken _ _ _ other, drawn⟩
  assemble session session' tree tree' image image' drawn rebuilt := by
    have other : ∀ text cause, Fault.assembly text ≠ .cause cause := fun _ _ => nofun
    simp only [plainTools, perform_bind, perform_ask, perform_change]
    rcases (drawn.child "A.smali" plainClass_plain).read with
      ⟨content, read, read'⟩ | ⟨_, _, read, read'⟩
    · simp only [read, read', Except.mapError]
      rcases rebuilt.write content with ⟨after, after', done, done', later⟩ | ⟨_, _, done, done'⟩
      · simp only [done, done']
        exact ⟨sameAnswer_done _, later⟩
      · simp only [done, done']
        exact ⟨sameAnswer_broken _ _ _ other, rebuilt⟩
    · simp only [read, read', Except.mapError]
      exact ⟨sameAnswer_broken _ _ _ other, rebuilt⟩

end DexGraft.Search
