import PageHarvest.Html.Tree
import PageHarvest.Proofs.Html.Visible

/-!
# What a document shows, by its tree

`Arena.visibleTexts` goes through all nodes of a document and looks for hidden elements among the nodes
that each text is below.  If the arena holds a tree, this comes to the same as walking down that tree and
turning back at hidden elements (`visibleTexts_of_holds`): the walk enters the nodes of the tree in their
order (`walk_enter`), and going up from one of them by the names of parents one misses no hidden element
(`any_ancestors`).  Every tree is held by some arena (`holds_ofTree`).
-/

namespace PageHarvest.Html

/-! ### Trees -/

namespace Node

mutual

/-- What stands below hidden elements does not show. -/
theorem texts_bare (n : Node) : n.bare.texts = n.texts := by
  cases n with
  | text cs => rfl
  | comment => rfl
  | element name children =>
    rw [bare, texts, texts]
    split
    · rfl
    · exact textsOf_bareOf children
  | fragment children =>
    rw [bare, texts, texts]
    exact textsOf_bareOf children

theorem textsOf_bareOf (ns : List Node) : textsOf (bareOf ns) = textsOf ns := by
  cases ns with
  | nil => rfl
  | cons n ns => rw [bareOf, textsOf, textsOf, texts_bare n, textsOf_bareOf ns]

end

end Node

namespace Arena

variable {a : Arena} {path above ids : List Nat} {id p k m : Nat} {row : Option Nat} {n t : Node}
  {ns : List Node}

/-! ### The walk -/

/-- A node, or the point at which its row is left for the parent `p`. -/
def begin (row : Option Nat) (p : Nat) : Edge :=
  match row with
  | some id => .enter id
  | none => .leave p

/-- The nodes entered after a point. -/
def onward (a : Arena) (k : Nat) (e : Edge) : Option (List Nat) :=
  match a.after e with
  | some e => a.walk k e
  | none => some []

/-- Entering a node is followed by what its row of children begins with, or by leaving the node if
it has none. -/
theorem walk_enter_succ (id k : Nat) :
    a.walk (k + 1) (.enter id) = (a.walk k (begin (a.first? id) id)).map (id :: ·) := by
  rw [walk, after, first?]
  cases a.ends? id with
  | none => rfl
  | some ends => rfl

/-- Nothing is entered by leaving a node. -/
theorem walk_leave_succ (id k : Nat) : a.walk (k + 1) (.leave id) = a.onward k (.leave id) := rfl

/-- Behind a node comes the next one of its row, and behind the last one the parent of the row is
left. -/
theorem onward_leave (hroot : id ≠ root) (hlast : a.next? id = none → a.parent? id = some p) :
    a.onward k (.leave id) = a.walk k (begin (a.next? id) p) := by
  rw [onward, after, if_neg hroot]
  cases hnext : a.next? id with
  | none => rw [hlast hnext]; rfl
  | some next => rfl

/-- The walk ends where the document is left. -/
theorem onward_root : a.onward k (.leave root) = some [] := by
  rw [onward, after, if_pos rfl]

/-- A node below others is not the document. -/
theorem Below.ne_root (hroot : a.parent? root = none) (h : a.Below path id) (hpath : path ≠ []) :
    id ≠ root := by
  rintro rfl
  cases h with
  | top parent => exact hpath rfl
  | step named shown rest => rw [hroot] at named; exact absurd named (by simp)

/-- What is below nothing is named as the child of nothing. -/
theorem parent?_of_below_nil (h : a.Below [] id) : a.parent? id = none := by
  generalize hpath : ([] : List Nat) = path at h
  cases h with
  | top parent => exact parent
  | step named shown rest => exact absurd hpath (by simp)

theorem Stands.below (h : a.Stands path id n) : a.Below path id := by
  cases n <;> rw [Stands] at h <;> exact h.1

/-- A walk through a node, from one through the row of its children. -/
theorem walk_enter_of_row {c id : Nat} {ids : List Nat}
    (hrow : ∀ k, a.walk (2 * c + k) (begin (a.first? id) id) = (a.walk k (.leave id)).map (ids ++ ·))
    (k : Nat) : a.walk (2 * (c + 1) + k) (.enter id)
      = (a.onward k (.leave id)).map (id :: ids ++ ·) := by
  rw [show 2 * (c + 1) + k = 2 * c + (k + 1) + 1 by omega, walk_enter_succ, hrow, walk_leave_succ,
    Option.map_map]
  rfl

mutual

/-- A walk that enters a tree enters its nodes in order, and then goes on behind it. -/
theorem walk_enter (hroot : a.parent? root = none) {path : List Nat} {id : Nat} {n : Node}
    (h : a.Stands path id n) (k : Nat) :
    a.walk (2 * n.count + k) (.enter id) = (a.onward k (.leave id)).map (a.places id n ++ ·) := by
  -- A node without children is left right after it was entered.
  have hleaf : a.first? id = none → ∀ k, a.walk (2 * 0 + k) (begin (a.first? id) id)
      = (a.walk k (.leave id)).map ([] ++ ·) := by
    intro hnone k
    rw [hnone, begin, Nat.mul_zero, Nat.zero_add]
    simp
  cases n with
  | text cs =>
    rw [Stands] at h
    exact walk_enter_of_row (hleaf h.2.2) k
  | comment =>
    rw [Stands] at h
    exact walk_enter_of_row (hleaf h.2.2) k
  | element name children =>
    rw [Stands] at h
    exact walk_enter_of_row (walk_begin hroot h.2.2) k
  | fragment children =>
    rw [Stands] at h
    exact walk_enter_of_row (walk_begin hroot h.2.2) k

/-- A walk through a row enters the nodes of its trees in order, and then leaves their parent. -/
theorem walk_begin (hroot : a.parent? root = none) {p : Nat} {above : List Nat} {row : Option Nat}
    {ns : List Node} (h : a.StandInRow (p :: above) row ns) (k : Nat) :
    a.walk (2 * Node.countOf ns + k) (begin row p)
      = (a.walk k (.leave p)).map (a.placesInRow row ns ++ ·) := by
  cases ns with
  | nil =>
    rw [StandInRow] at h
    subst h
    simp [Node.countOf, begin, placesInRow]
  | cons n ns =>
    rw [StandInRow] at h
    obtain ⟨id, rfl, hn, hlast, hns⟩ := h
    -- The document itself is in no row.
    have hid := hn.below.ne_root hroot (by simp)
    -- Where the row ends, the parent of its last node is named.
    have hparent : a.next? id = none → a.parent? id = some p := by
      intro hnone
      apply hlast
      cases ns with
      | nil => rfl
      | cons m ms =>
        rw [hnone, StandInRow] at hns
        obtain ⟨_, h, -⟩ := hns
        exact absurd h (by simp)
    have hfirst := walk_enter hroot hn (2 * Node.countOf ns + k)
    rw [onward_leave hid hparent, walk_begin hroot hns k, Option.map_map] at hfirst
    rw [Node.countOf, Nat.mul_add, Nat.add_assoc, begin, hfirst, placesInRow]
    simp only [Function.comp_def, List.append_assoc]

end

/-! ### The nodes of a tree -/

mutual

/-- A tree has as many places as nodes. -/
theorem length_places {path : List Nat} {id : Nat} {n : Node} (h : a.Stands path id n) :
    (a.places id n).length = n.count := by
  cases n with
  | text cs => rfl
  | comment => rfl
  | element name children =>
    rw [Stands] at h
    rw [places, List.length_cons, length_placesInRow h.2.2, Node.count]
  | fragment children =>
    rw [Stands] at h
    rw [places, List.length_cons, length_placesInRow h.2.2, Node.count]

theorem length_placesInRow {path : List Nat} {row : Option Nat} {ns : List Node}
    (h : a.StandInRow path row ns) : (a.placesInRow row ns).length = Node.countOf ns := by
  cases ns with
  | nil => rfl
  | cons n ns =>
    rw [StandInRow] at h
    obtain ⟨id, rfl, hn, -, hns⟩ := h
    rw [placesInRow, List.length_append, length_places hn, length_placesInRow hns, Node.countOf]

end

theorem lt_size_of_kind? {kind : Kind} (h : a.kind? id = some kind) : id < a.cells.size := by
  obtain ⟨c, hc, -⟩ := Option.map_eq_some_iff.1 h
  exact (Array.getElem?_eq_some_iff.1 hc).1

theorem lt_size_of_text? {cs : List Char} (h : a.text? id = some cs) : id < a.cells.size := by
  rw [text?] at h
  split at h
  · next hkind => exact lt_size_of_kind? hkind
  · exact absurd h (by simp)

mutual

/-- All places of a tree are places of the arena. -/
theorem lt_size_of_mem_places {path : List Nat} {id : Nat} {n : Node} (h : a.Stands path id n) :
    ∀ i ∈ a.places id n, i < a.cells.size := by
  cases n with
  | text cs =>
    rw [Stands] at h
    rw [places, List.forall_mem_singleton]
    exact lt_size_of_text? h.2.1
  | comment =>
    rw [Stands] at h
    rw [places, List.forall_mem_singleton]
    exact lt_size_of_kind? h.2.1
  | element name children =>
    rw [Stands] at h
    rw [places, List.forall_mem_cons]
    exact ⟨lt_size_of_kind? h.2.1, lt_size_of_mem_placesInRow h.2.2⟩
  | fragment children =>
    rw [Stands] at h
    rw [places, List.forall_mem_cons]
    exact ⟨lt_size_of_kind? h.2.1, lt_size_of_mem_placesInRow h.2.2⟩

theorem lt_size_of_mem_placesInRow {path : List Nat} {row : Option Nat} {ns : List Node}
    (h : a.StandInRow path row ns) : ∀ i ∈ a.placesInRow row ns, i < a.cells.size := by
  cases ns with
  | nil => simp [placesInRow]
  | cons n ns =>
    rw [StandInRow] at h
    obtain ⟨id, rfl, hn, -, hns⟩ := h
    rw [placesInRow, List.forall_mem_append]
    exact ⟨lt_size_of_mem_places hn, lt_size_of_mem_placesInRow hns⟩

end

/-- The walk through a document that holds a tree ends. -/
theorem walk_of_holds (h : a.Holds t) : a.walk (2 * t.count) (.enter root) = some (a.places root t) := by
  have hwalk := walk_enter (parent?_of_below_nil h.below) h 0
  rw [Nat.add_zero, onward_root, Option.map_some, List.append_nil] at hwalk
  exact hwalk

/-- A tree has no more nodes than the arena that holds it. -/
theorem count_le_of_holds (h : a.Holds t) : t.count ≤ a.cells.size := by
  rw [← length_places h, ← List.length_range (n := a.cells.size)]
  -- The walk enters no node twice, so that counting the nodes is enough.
  refine (List.subperm_of_subset (nodup_of_walk (walk_of_holds h)) fun i hi => ?_).length_le
  exact List.mem_range.2 (lt_size_of_mem_places h i hi)

/-- The nodes of a document are those of its tree, in the same order. -/
theorem descendants_of_holds (h : a.Holds t) : a.descendants = a.places root t := by
  have hle : 2 * t.count ≤ 2 * a.cells.size := Nat.mul_le_mul_left 2 (count_le_of_holds h)
  rw [descendants, walk_of_le (walk_of_holds h) hle, Option.getD_some]

/-! ### What the nodes are below -/

/-- Going up from a node, one misses no hidden element that it is below. -/
theorem any_ancestors (h : a.Below path id) (hm : path.length ≤ m) :
    (a.ancestors m id).any a.isHidden = path.any a.isHidden := by
  -- On the path; `m` is the number of steps that are left for going up.
  induction h generalizing m with
  | top parent =>
    cases m with
    | zero => rfl
    | succ m => simp [ancestors, parent]
  | @step id parent between above named shown rest ih =>
    rw [List.length_append, List.length_cons] at hm
    obtain ⟨m, rfl⟩ : ∃ k, m = k + 1 := ⟨m - 1, by omega⟩
    -- Nodes that are no longer the parent stand in between, none of them hidden.
    have hbetween : between.any a.isHidden = false := by
      rw [List.any_eq_false]
      simpa using shown
    rw [ancestors, named, List.any_append, hbetween, Bool.false_or, List.any_cons, List.any_cons,
      ih (by omega)]

/-- The text of a node, if it is below no hidden element. -/
def shown? (a : Arena) (m id : Nat) : Option (List Char) :=
  if (a.ancestors m id).any a.isHidden then none else a.text? id

/-- Whether an element is hidden is settled by its name. -/
theorem isHidden_of_kind? {name : ElementName} (h : a.kind? id = some (.element name)) :
    a.isHidden id = name.tag.isHidden := by
  rw [isHidden, ← kind?, h]

theorem text?_of_kind? {kind : Kind} (h : a.kind? id = some kind)
    (hkind : ∀ pieces, kind ≠ .text pieces) : a.text? id = none := by
  rw [text?, ← kind?, h]
  cases kind with
  | text pieces => exact absurd rfl (hkind pieces)
  | _ => rfl

/-- A node without text shows nothing, hidden or not. -/
theorem shown?_eq_none (h : a.text? id = none) : a.shown? m id = none := by
  rw [shown?, h, ite_self]

mutual

/-- What a tree below a path shows: nothing if there is a hidden element on the path. -/
theorem filterMap_places {path : List Nat} {id : Nat} {n : Node} (h : a.Stands path id n)
    (hm : path.length + n.count ≤ m) :
    (a.places id n).filterMap (a.shown? m) = if path.any a.isHidden then [] else n.texts := by
  cases n with
  | text cs =>
    rw [Stands] at h
    rw [places, Node.texts, List.filterMap_cons, List.filterMap_nil, shown?,
      any_ancestors h.1 (by omega), h.2.1]
    cases path.any a.isHidden <;> rfl
  | comment =>
    rw [Stands] at h
    rw [places, Node.texts, List.filterMap_cons,
      shown?_eq_none (text?_of_kind? h.2.1 (by simp)), ite_self]
    rfl
  | element name children =>
    rw [Stands] at h
    rw [Node.count] at hm
    rw [places, Node.texts, List.filterMap_cons, shown?_eq_none (text?_of_kind? h.2.1 (by simp)),
      filterMap_placesInRow h.2.2 (by simp only [List.length_cons]; omega), List.any_cons,
      isHidden_of_kind? h.2.1]
    -- A hidden element adds itself to the path, and its subtree shows nothing either way.
    cases name.tag.isHidden <;> simp
  | fragment children =>
    rw [Stands] at h
    rw [Node.count] at hm
    have hshown : a.isHidden id = false := by rw [isHidden, ← kind?, h.2.1]
    rw [places, Node.texts, List.filterMap_cons, shown?_eq_none (text?_of_kind? h.2.1 (by simp)),
      filterMap_placesInRow h.2.2 (by simp only [List.length_cons]; omega), List.any_cons, hshown,
      Bool.false_or]

theorem filterMap_placesInRow {path : List Nat} {row : Option Nat} {ns : List Node}
    (h : a.StandInRow path row ns) (hm : path.length + Node.countOf ns ≤ m) :
    (a.placesInRow row ns).filterMap (a.shown? m)
      = if path.any a.isHidden then [] else Node.textsOf ns := by
  cases ns with
  | nil => simp [placesInRow, Node.textsOf]
  | cons n ns =>
    rw [StandInRow] at h
    obtain ⟨id, rfl, hn, -, hns⟩ := h
    rw [Node.countOf] at hm
    rw [placesInRow, Node.textsOf, List.filterMap_append, filterMap_places hn (by omega),
      filterMap_placesInRow hns (by omega)]
    split <;> rfl

end

/-- **What a document shows is what a walk down its tree finds.** -/
theorem visibleTexts_of_holds (h : a.Holds t) : a.visibleTexts = t.texts := by
  have hshown := filterMap_places h (m := a.cells.size) (by simpa using count_le_of_holds h)
  rw [visibleTexts, descendants_of_holds h]
  exact hshown

/-! ### Every tree is held by an arena -/

mutual

/-- A tree takes up as many cells as it has nodes. -/
theorem length_cellsFrom (parent previous next : Option Nat) (id : Nat) (n : Node) :
    (cellsFrom parent previous next id n).length = n.count := by
  cases n with
  | text cs => rfl
  | comment => rfl
  | element name children =>
    rw [cellsFrom, List.length_cons, length_rowFrom id none (id + 1) children, Node.count]
  | fragment children =>
    rw [cellsFrom, List.length_cons, length_rowFrom id none (id + 1) children, Node.count]

theorem length_rowFrom (parent : Nat) (previous : Option Nat) (id : Nat) (ns : List Node) :
    (rowFrom parent previous id ns).length = Node.countOf ns := by
  cases ns with
  | nil => rfl
  | cons n ns =>
    rw [rowFrom, List.length_append, length_cellsFrom _ _ _ id n,
      length_rowFrom parent (some id) (id + n.count) ns, Node.countOf]

end

/-- A node that names its parent stands where the parent stands, one step further down. -/
theorem below_of_parent? (hparent : a.parent? id = path.head?)
    (hpath : ∀ p above, path = p :: above → a.Below above p) : a.Below path id := by
  cases path with
  | nil => exact .top hparent
  | cons p above =>
    have hstep : a.Below ([] ++ p :: above) id := .step hparent (by simp) (hpath p above rfl)
    exact hstep

/-- The first child stands right behind its parent. -/
theorem map_fst_endsFrom (id : Nat) (ns : List Node) :
    (endsFrom id ns).map Prod.fst = if ns.isEmpty then none else some id := by
  rw [endsFrom]
  split <;> rfl

/-- The first cell of a tree is that of its root. -/
theorem exists_cellsFrom (parent previous next : Option Nat) (id : Nat) (n : Node) :
    ∃ c rest, cellsFrom parent previous next id n = c :: rest ∧ c.parent = parent ∧
      c.next = next := by
  cases n <;> exact ⟨_, _, rfl, rfl, rfl⟩

/-- Of two lists that stand in a row, the second stands where the first one ends. -/
theorem prefix_drop_of_append {α : Type} {l : List α} (xs ys : List α)
    (h : xs ++ ys <+: l.drop id) : ys <+: l.drop (id + xs.length) := by
  obtain ⟨rest, hrest⟩ := h
  refine ⟨rest, ?_⟩
  rw [← List.drop_drop, ← hrest, List.append_assoc, List.drop_left]

theorem getElem?_of_prefix {c : Cell} {cs : List Cell} (h : c :: cs <+: a.cells.toList.drop id) :
    a.cells[id]? = some c := by
  obtain ⟨rest, hrest⟩ := h
  rw [← Array.getElem?_toList, ← List.head?_drop, ← hrest]
  rfl

mutual

/-- A tree stands where its cells are. -/
theorem stands_of_prefix {path : List Nat} {previous next : Option Nat} {id : Nat} {n : Node}
    (h : cellsFrom path.head? previous next id n <+: a.cells.toList.drop id)
    (hpath : ∀ p above, path = p :: above → a.Below above p) : a.Stands path id n := by
  obtain ⟨c, cs, hcells, hparent, -⟩ := exists_cellsFrom path.head? previous next id n
  have hbelow : a.Below path id := by
    rw [hcells] at h
    exact below_of_parent? (by rw [parent?, getElem?_of_prefix h]; exact hparent) hpath
  cases n with
  | text cs =>
    rw [cellsFrom] at h
    have hcell := getElem?_of_prefix h
    rw [Stands, text?, first?, ends?, hcell]
    exact ⟨hbelow, by simp, rfl⟩
  | comment =>
    rw [cellsFrom] at h
    have hcell := getElem?_of_prefix h
    rw [Stands, kind?, first?, ends?, hcell]
    exact ⟨hbelow, rfl, rfl⟩
  | element name children =>
    rw [cellsFrom] at h
    have hcell := getElem?_of_prefix h
    rw [Stands, kind?, first?, ends?, hcell]
    refine ⟨hbelow, rfl, ?_⟩
    rw [Option.bind_some, map_fst_endsFrom]
    exact standInRow_of_prefix (prefix_drop_of_append [_] _ h) hbelow
  | fragment children =>
    rw [cellsFrom] at h
    have hcell := getElem?_of_prefix h
    rw [Stands, kind?, first?, ends?, hcell]
    refine ⟨hbelow, rfl, ?_⟩
    rw [Option.bind_some, map_fst_endsFrom]
    exact standInRow_of_prefix (prefix_drop_of_append [_] _ h) hbelow

theorem standInRow_of_prefix {p : Nat} {above : List Nat} {previous : Option Nat} {id : Nat}
    {ns : List Node} (h : rowFrom p previous id ns <+: a.cells.toList.drop id)
    (hp : a.Below above p) :
    a.StandInRow (p :: above) (if ns.isEmpty then none else some id) ns := by
  cases ns with
  | nil => rfl
  | cons n ns =>
    rw [rowFrom] at h
    have hn := (List.prefix_append _ _).trans h
    have hns := prefix_drop_of_append _ _ h
    rw [length_cellsFrom] at hns
    obtain ⟨c, cs, hcells, hparent, hnext⟩ :=
      exists_cellsFrom (some p) previous (if ns.isEmpty then none else some (id + n.count)) id n
    have hcell := getElem?_of_prefix (hcells ▸ hn)
    rw [StandInRow]
    -- The first tree of the row, the parent that its root names, and the trees behind it.
    refine ⟨id, rfl, stands_of_prefix hn ?_, fun _ => ?_, ?_⟩
    · rintro q above' hq
      obtain ⟨rfl, rfl⟩ := List.cons.inj hq
      exact hp
    · rw [parent?, hcell, Option.bind_some, hparent]
      rfl
    · rw [next?, hcell, Option.bind_some, hnext]
      exact standInRow_of_prefix hns hp

end

/-- **Every tree is held by the arena made of it.** -/
theorem holds_ofTree (t : Node) : (ofTree t).Holds t := by
  have hcells : cellsFrom ([] : List Nat).head? none none root t
      <+: (ofTree t).cells.toList.drop root := List.prefix_refl _
  refine stands_of_prefix hcells ?_
  rintro p above h
  exact absurd h (by simp)

end Arena

end PageHarvest.Html
