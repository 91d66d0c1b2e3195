import TableFeed.Proofs.Lookup
import TableFeed.Proofs.Text.Utf8
import TableFeed.Source.Reader

/-!
# A file that was written is read back

Writing a file follows its path to a place that is no directory and sets the node there. Reading
follows the path again, in files that are no longer the same.

* **`follow_setNode`** — the crux: the path leads to the same place. Everything it passes on the way
  is a directory, and the node that was set is none.
* **`read_write`**, **`readText_write`** — what is read then.
* **`write_leaves`** — what a write leaves that goes wrong.
* **`Fits`** — files of the sizes that files have.
-/

namespace TableFeed

namespace Files

/-- Setting a node changes what its own place names and nothing else. -/
theorem lookup_setNode (parts p : Parts) (node : Node) (l : List (Parts × Node)) :
    (setNode parts node l).lookup p = if p = parts then some node else l.lookup p := by
  induction l with
  | nil => exact lookup_cons p parts node []
  | cons e rest ih =>
    obtain ⟨k, n⟩ := e
    unfold setNode
    by_cases hk : k = parts
    · rw [if_pos hk, lookup_cons, lookup_cons, hk]
      split <;> rfl
    · rw [if_neg hk, lookup_cons, lookup_cons, ih]
      by_cases hp : p = k
      · have hne : p ≠ parts := fun h => hk (hp.symm.trans h)
        rw [if_pos hp, if_neg hne, if_pos hp]
      · rw [if_neg hp, if_neg hp]

variable {f : Files} {parts : Parts} {node : Node}

theorem node?_setNode_ne {p : Parts} (h : p ≠ parts) :
    node? ⟨setNode parts node f.nodes⟩ p = f.node? p := by
  unfold node?
  split
  · rfl
  · rw [lookup_setNode, if_neg h]

theorem node?_setNode_self (h : parts ≠ []) :
    node? ⟨setNode parts node f.nodes⟩ parts = some node := by
  unfold node?
  rw [if_neg h, lookup_setNode, if_pos rfl]

/-- A path that leads to a place which is no directory still does when the node there is set. -/
theorem follow_setNode (hparts : f.node? parts ≠ some .directory) (names : Parts) :
    ∀ place, f.follow place names = .ok parts →
      follow ⟨setNode parts node f.nodes⟩ place names = .ok parts := by
  induction names with
  | nil =>
    intro place h
    cases place <;> exact h
  | cons name rest ih =>
    intro place h
    cases place with
    | none =>
      unfold follow at h ⊢
      split at h
      · rename_i hstay
        rw [if_pos hstay]
        exact ih none h
      · split at h <;> cases h
    | some place =>
      -- the path goes on from here, so this is a directory, and not the place it leads to
      unfold follow at h ⊢
      cases hnode : f.node? place with
      | none => rw [hnode] at h; cases h
      | some n =>
        rw [hnode] at h
        cases n with
        | file content => cases h
        | directory =>
          have hne : place ≠ parts := fun heq => hparts (heq ▸ hnode)
          rw [node?_setNode_ne hne, hnode]
          simp only at h ⊢
          split
          · rename_i hstay
            rw [if_pos hstay] at h
            exact ih (some place) h
          · rename_i hstay
            rw [if_neg hstay] at h
            split
            · rename_i hup
              rw [if_pos hup] at h
              exact ih _ h
            · rename_i hup
              rw [if_neg hup] at h
              split at h
              · cases h
              · rename_i hlong
                rw [if_neg hlong]
                exact ih _ h

/-- A path that names a file to be made is followed as any other. -/
theorem resolve_of_resolveNew {path : String} (h : f.resolveNew path = .ok parts) :
    ∃ start names, Files.names path = .ok (start, names) ∧ f.follow start names = .ok parts := by
  unfold resolveNew at h
  cases hnames : Files.names path with
  | error e => rw [hnames] at h; cases h
  | ok p =>
    obtain ⟨start, names⟩ := p
    refine ⟨start, names, rfl, ?_⟩
    rw [hnames] at h
    simp only [bind, Except.bind] at h
    split at h
    · -- a slash at the end names no file that could be made
      split at h <;> cases h
    · exact h

/-- A write that succeeds sets a file at the place its path leads to. -/
theorem write_eq {f' : Files} {path : String} {content : List UInt8}
    (h : f.write path content = .ok f') :
    ∃ parts, f.resolveNew path = .ok parts ∧ f.node? parts ≠ some .directory ∧
      f' = ⟨setNode parts (.file content) f.nodes⟩ := by
  unfold write at h
  cases hparts : f.resolveNew path with
  | error e => rw [hparts] at h; cases h
  | ok parts =>
    rw [hparts] at h
    simp only [bind, Except.bind] at h
    refine ⟨parts, rfl, ?_⟩
    cases hnode : f.node? parts with
    | some n =>
      rw [hnode] at h
      cases n with
      | directory => cases h
      | file old => exact ⟨by simp, (Except.ok.inj h).symm⟩
    | none =>
      rw [hnode] at h
      simp only at h
      split at h
      · cases h
      · cases h
      · exact ⟨by simp, (Except.ok.inj h).symm⟩

/-- What was written to a file is read from it. -/
theorem read_write {f' : Files} {path : String} {content : List UInt8}
    (h : f.write path content = .ok f') : f'.read path = .ok content := by
  obtain ⟨parts, hresolve, hnode, rfl⟩ := write_eq h
  obtain ⟨start, names, hnames, hfollow⟩ := resolve_of_resolveNew hresolve
  have hplace : follow ⟨setNode parts (.file content) f.nodes⟩ start names = .ok parts :=
    follow_setNode hnode names start hfollow
  have hne : parts ≠ [] := fun heq => hnode (heq ▸ rfl)
  unfold read resolve
  rw [hnames]
  simp only [bind, Except.bind]
  rw [hplace]
  simp only [node?_setNode_self hne]
  rfl

/-- Where a file was written, any other content can be written. -/
theorem write_again {f' : Files} {path : String} {content : List UInt8}
    (h : f.write path content = .ok f') (more : List UInt8) : ∃ f'', f'.write path more = .ok f'' := by
  obtain ⟨parts, hresolve, hnode, rfl⟩ := write_eq h
  have hagain : resolveNew ⟨setNode parts (.file content) f.nodes⟩ path = .ok parts := by
    unfold resolveNew at hresolve ⊢
    cases hnames : Files.names path with
    | error e => rw [hnames] at hresolve; cases hresolve
    | ok p =>
      rw [hnames] at hresolve
      simp only [bind, Except.bind] at hresolve ⊢
      split at hresolve
      · split at hresolve <;> cases hresolve
      · rename_i hslash
        rw [if_neg hslash]
        exact follow_setNode hnode p.2 p.1 hresolve
  have hne : parts ≠ [] := fun heq => hnode (heq ▸ rfl)
  refine ⟨⟨setNode parts (.file more) (setNode parts (.file content) f.nodes)⟩, ?_⟩
  unfold write
  rw [hagain]
  simp only [bind, Except.bind, node?_setNode_self hne]
  rfl

/-- A text that was written to a file is read from it. -/
theorem readText_write {f' : Files} {path text : String}
    (h : f.write path (Utf8.bytes text) = .ok f') : f'.readText path = .ok text := by
  unfold readText
  rw [read_write h]
  simp only [bind, Except.bind, Utf8.decode?_bytes]
  rfl

end Files

namespace Surroundings

variable {s s' : Surroundings} {path : String}

/-- What was written and did not go wrong is in its file. -/
theorem write_cases {content : List UInt8} (h : s.write path content = (s', none)) :
    s.files.write path content = .ok s'.files ∧ s'.faults = s.faults.tail := by
  simp only [Surroundings.write] at h
  split at h
  · unfold setContent at h
    split at h
    · cases h
    · rename_i files hwrite
      obtain ⟨rfl, -⟩ := Prod.mk.inj h
      exact ⟨hwrite, rfl⟩
  · cases h
  · cases (Prod.mk.inj h).2

/-- Whatever goes wrong, files are left as they are, or with the beginning of the content in one. -/
theorem write_leaves (s : Surroundings) (path : String) (content : List UInt8) :
    (s.write path content).1.files = s.files ∨
      ∃ n, s.files.write path (content.take n) = .ok (s.write path content).1.files := by
  have hset : ∀ n,
      ({ s with faults := s.faults.tail }.setContent path (content.take n)).1.files = s.files ∨
        s.files.write path (content.take n) =
          .ok ({ s with faults := s.faults.tail }.setContent path (content.take n)).1.files := by
    intro n
    simp only [setContent]
    cases s.files.write path (content.take n) with
    | error cause => exact .inl rfl
    | ok files => exact .inr rfl
  unfold write
  cases s.faults.head?.join with
  | none =>
    have hall := hset content.length
    rw [List.take_length] at hall
    exact hall.imp_right fun h => ⟨content.length, by rwa [List.take_length]⟩
  | some fault =>
    cases fault with
    | opening cause => exact .inl rfl
    | writing cause written => exact (hset written).imp_right fun h => ⟨written, h⟩

theorem read_write {content : List UInt8} (h : s.write path content = (s', none)) :
    s'.files.read path = .ok content :=
  Files.read_write (write_cases h).1

/-- Any writing to a file succeeds, now and later. -/
structure Writable (s : Surroundings) (path : String) : Prop where
  faults : ∀ fault ∈ s.faults, fault = none
  takes : ∀ content, ∃ files, s.files.write path content = .ok files

theorem Writable.write (h : s.Writable path) (content : List UInt8) :
    (s.write path content).2 = none := by
  obtain ⟨files, hfiles⟩ := h.takes content
  have hfault : s.faults.head?.join = none := by
    cases hfaults : s.faults with
    | nil => rfl
    | cons fault rest => exact h.faults fault (by rw [hfaults]; exact List.mem_cons_self)
  simp only [Surroundings.write, hfault, setContent, hfiles]

theorem takes_write {content : List UInt8} (h : s.write path content = (s', none))
    (more : List UInt8) : ∃ files, s'.files.write path more = .ok files :=
  Files.write_again (write_cases h).1 more

theorem Writable.kept (h : s.Writable path) {content : List UInt8}
    (hwrite : s.write path content = (s', none)) : s'.Writable path where
  faults := by
    rw [(write_cases hwrite).2]
    exact fun fault hfault => h.faults fault (List.mem_of_mem_tail hfault)
  takes := takes_write hwrite

theorem readText_write {text : String} (h : s.write path (Utf8.bytes text) = (s', none)) :
    s'.files.readText path = .ok text :=
  Files.readText_write (write_cases h).1

end Surroundings

/-! ## How long files are -/

/-- A file is shorter than memory is. -/
def Node.Fits : Node → Prop
  | .file content => content.length < 2 ^ 63
  | .directory => True

instance : DecidablePred Node.Fits
  | .file _ => inferInstanceAs (Decidable (_ < _))
  | .directory => isTrue trivial

/-- Every file is shorter than memory is. -/
def Files.Fits (f : Files) : Prop :=
  ∀ e ∈ f.nodes, e.2.Fits

instance (f : Files) : Decidable f.Fits :=
  inferInstanceAs (Decidable (∀ e ∈ f.nodes, e.2.Fits))

theorem Files.length_read {f : Files} {path : String} {content : List UInt8} (h : f.Fits)
    (hread : f.read path = .ok content) : content.length < 2 ^ 63 := by
  unfold read at hread
  cases hparts : f.resolve path with
  | error e => rw [hparts] at hread; cases hread
  | ok parts =>
    rw [hparts] at hread
    simp only [bind, Except.bind] at hread
    split at hread
    · cases hread
    · cases hread
    · rename_i content' hnode
      obtain rfl : content' = content := Except.ok.inj hread
      unfold node? at hnode
      split at hnode
      · cases hnode
      · exact h _ (mem_of_lookup hnode)

end TableFeed
