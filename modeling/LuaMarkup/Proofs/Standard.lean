import LuaMarkup.Html.Standard
import LuaMarkup.Proofs.Contents

/-!
# The library for the syntax of the web

`Html.Standard.lawful`: what is relied on holds of `Html.standard`. A selector lists the elements of
a page in document order, each once if it counts once (`Selector.pairwise_select`), and if it looks
at the elements alone, just those that it counts (`Selector.CountsBy.mem_select_iff`).
-/

namespace LuaMarkup

namespace Html.Standard

open Node (Path modifyAt childrenAt)

theorem escapeText_of_isAlphanum {content : Text} (h : ∀ c ∈ content, c.isAlphanum) :
    escapeText content = content := by
  have hne : ∀ c ∈ content, ∀ d : Char, ¬d.isAlphanum → c ≠ d := by
    rintro c hc d hd rfl
    exact hd (h c hc)
  rw [escapeText, List.flatMap_congr fun c hc => by
    rw [if_neg (hne c hc _ (by decide)), if_neg (hne c hc _ (by decide)),
      if_neg (hne c hc _ (by decide)), if_neg (hne c hc _ (by decide))]]
  exact List.flatMap_singleton' content

-- ---------------------------------------------------------------------------
-- The body of a page
-- ---------------------------------------------------------------------------

variable {f : Node → Node} {nodes : List Node} {p : Path}

open Document (isElement)

theorem isElement_withChildren {name : String} {children : List Node} {node : Node} :
    isElement name (node.withChildren children) = isElement name node := by
  cases node <;> rfl

theorem findIdx?_modify {α : Type} {p : α → Bool} {f : α → α} (h : ∀ a, p (f a) = p a)
    (l : List α) (i : Nat) : (l.modify i f).findIdx? p = l.findIdx? p := by
  induction l generalizing i with
  | nil => rw [List.modify_nil]
  | cons a l ih =>
    cases i with
    | zero => rw [List.modify_zero_cons, List.findIdx?_cons, List.findIdx?_cons, h]
    | succ i => rw [List.modify_succ_cons, List.findIdx?_cons, List.findIdx?_cons, ih]

/-- A change of one node of a kind to another one leaves the kinds in their places. -/
theorem findIdx?_isElement_modifyAt {name : String}
    (h : ∀ node, isElement name (f node) = isElement name node) (nodes : List Node) (p : Path) :
    (modifyAt f nodes p).findIdx? (isElement name) = nodes.findIdx? (isElement name) := by
  match p with
  | [] => rfl
  | [i] => exact findIdx?_modify h nodes i
  | i :: j :: p => exact findIdx?_modify (fun _ => isElement_withChildren) nodes i

theorem bodyPath?_eq (document : Document) :
    document.bodyPath? = (document.nodes.findIdx? (isElement "html")).bind fun i =>
      ((childrenAt document.nodes [i]).findIdx? (isElement "body")).map fun j => [i, j] := by
  rw [Document.bodyPath?]
  cases hhtml : document.nodes.findIdx? (isElement "html") with
  | none => rfl
  | some i =>
    obtain ⟨hi, -⟩ := List.findIdx?_eq_some_iff_getElem.mp hhtml
    have hchildren : childrenAt document.nodes [i] = document.nodes[i].children := by
      rw [childrenAt, Node.at?, List.getElem?_eq_getElem hi]
      rfl
    simp only [Option.bind_eq_bind, Option.bind_some, List.getElem?_eq_getElem hi, hchildren]
    cases document.nodes[i].children.findIdx? (isElement "body") <;> rfl

theorem exists_element_of_isElement {name : String} {node : Node} (h : isElement name node) :
    ∃ attributes children, node = .element ⟨.html, name⟩ attributes children := by
  cases node with
  | element tag attributes children =>
    obtain ⟨space, tagName⟩ := tag
    obtain ⟨rfl, rfl⟩ : space = .html ∧ tagName = name := by
      simpa [isElement, Tag.isHtml] using h
    exact ⟨attributes, children, rfl⟩
  | _ => cases h

/-- The body is in the `html` element. -/
theorem exists_of_bodyPath? {document : Document} {path : Path}
    (h : document.bodyPath? = some path) :
    ∃ i j html body, path = [i, j] ∧
      Node.at? document.nodes [i] = some html ∧ isElement "html" html ∧
      Node.at? document.nodes [i, j] = some body ∧ isElement "body" body := by
  rw [bodyPath?_eq] at h
  obtain ⟨i, hi, h⟩ := Option.bind_eq_some_iff.mp h
  obtain ⟨j, hj, rfl⟩ := Option.map_eq_some_iff.mp h
  obtain ⟨hlt, hhtml, -⟩ := List.findIdx?_eq_some_iff_getElem.mp hi
  obtain ⟨hlt', hbody, -⟩ := List.findIdx?_eq_some_iff_getElem.mp hj
  refine ⟨i, j, _, _, rfl, List.getElem?_eq_getElem hlt, hhtml, ?_, hbody⟩
  rw [Node.at?_cons_cons, Node.at?, List.getElem?_eq_getElem hlt']

theorem isAbove_pair_iff (hp : p ≠ []) {i j : Nat} : Path.isAbove p [i, j] ↔ p = [i] := by
  rw [Path.isAbove_iff]
  constructor
  · rintro ⟨hinit, hne⟩
    rcases List.prefix_cons_iff.mp hinit with rfl | ⟨s, rfl, hs⟩
    · exact absurd rfl hp
    · rcases List.prefix_cons_iff.mp hs with rfl | ⟨t, rfl, ht⟩
      · rfl
      · exact absurd (by rw [List.prefix_nil.mp ht]) hne
  · rintro rfl
    exact ⟨List.cons_prefix_cons.mpr ⟨rfl, List.nil_prefix⟩, by simp⟩

/-- A node that is given a text to hold and other attributes. -/
def refilled (content : Text) (g : List Attribute → List Attribute) (node : Node) : Node :=
  (node.withChildren [.text content]).mapAttributes g

variable {content : Text} {g : List Attribute → List Attribute}

theorem isElement_refilled {name : String} (node : Node) :
    isElement name (refilled content g node) = isElement name node := by
  cases node <;> rfl

/-- There is no element in a refilled one, and elsewhere all is as before. -/
theorem findIdx?_childrenAt_modifyAt (name : String) (nodes : List Node) (hp : p ≠ []) (i : Nat) :
    (childrenAt (modifyAt (refilled content g) nodes p) [i]).findIdx? (isElement name) =
      if p = [i] then none else (childrenAt nodes [i]).findIdx? (isElement name) := by
  obtain ⟨k, p, rfl⟩ := List.exists_cons_of_ne_nil hp
  by_cases hki : k = i
  · subst hki
    cases p with
    | nil =>
      rw [if_pos rfl, childrenAt, Node.at?_modifyAt_self]
      cases Node.at? nodes [k] with
      | none => rfl
      | some node => cases node <;> rfl
    | cons j p =>
      rw [if_neg (by simp), Node.childrenAt_modifyAt_cons,
        findIdx?_isElement_modifyAt isElement_refilled]
  · rw [if_neg (by simp [hki]), childrenAt, Node.at?_modifyAt_cons_of_ne hki, ← childrenAt]

theorem bodyPath?_modifyAt (document : Document) (hp : p ≠ []) :
    (document.modifyAt (refilled content g) p).bodyPath? =
      document.bodyPath?.filter fun body => !Path.isAbove p body := by
  simp only [bodyPath?_eq, Document.modifyAt, findIdx?_isElement_modifyAt isElement_refilled,
    findIdx?_childrenAt_modifyAt _ _ hp]
  cases document.nodes.findIdx? (isElement "html") with
  | none => rfl
  | some i =>
    have hpair : ∀ j, Path.isAbove p [i, j] = decide (p = [i]) := fun j =>
      Bool.eq_iff_iff.mpr ((isAbove_pair_iff hp).trans decide_eq_true_iff.symm)
    simp only [Option.bind_some]
    cases (childrenAt document.nodes [i]).findIdx? (isElement "body") with
    | none => split <;> rfl
    | some j =>
      simp only [Option.map_some, Option.filter, hpair]
      split <;> simp [*]

theorem lawful : standard.Lawful printer where
  text_eq _ := rfl
  print_eq _ := rfl
  printInner_eq hnode := congrArg (Option.map printInner) hnode
  leaf_eq parent content h := by
    change (if holdsRawText parent then content else escapeText content) = content
    rw [escapeText_of_isAlphanum h, ite_self]
  body_element hbody := by
    obtain ⟨_, _, _, body, rfl, -, -, hnode, hbody⟩ := exists_of_bodyPath? hbody
    obtain ⟨attributes, children, rfl⟩ := exists_element_of_isElement hbody
    exact ⟨_, attributes, children, hnode⟩
  body_modifyAt document _ _ _ hp := bodyPath?_modifyAt document hp

theorem showsBody : standard.ShowsBody printer := by
  intro document body above tag attributes children hbody habove hnode
  obtain ⟨i, j, html, body, rfl, hhtml, hname, hnode', hname'⟩ := exists_of_bodyPath? hbody
  obtain ⟨_, _, rfl⟩ := exists_element_of_isElement hname
  obtain ⟨_, _, rfl⟩ := exists_element_of_isElement hname'
  rcases List.prefix_cons_iff.mp habove with rfl | ⟨s, rfl, hs⟩
  · cases hnode
  rcases List.prefix_cons_iff.mp hs with rfl | ⟨t, rfl, ht⟩
  · cases hnode.symm.trans hhtml
    decide
  · rw [List.prefix_nil.mp ht] at hnode
    cases hnode.symm.trans hnode'
    decide

end Html.Standard

-- ---------------------------------------------------------------------------
-- The order of a page
-- ---------------------------------------------------------------------------

namespace Selector

open Html (Node)
open Html.Node (Path)

mutual
theorem prefix_of_mem_pathsOf {count : Lineage → Nat} {lineage : Lineage} {path q : Path} :
    (node : Node) → q ∈ pathsOf count lineage path node → path <+: q
  | .element _ _ children, h => by
    rw [pathsOf] at h
    rcases List.mem_append.mp h with h | h
    · rw [List.eq_of_mem_replicate h]
    · obtain ⟨i, -, hi⟩ := exists_prefix_of_mem_pathsIn children h
      exact (List.prefix_append path [i]).trans hi
  | .template _ _, h => by
    rw [pathsOf] at h
    rw [List.eq_of_mem_replicate h]
  | .text _, h | .comment _, h | .instruction .., h | .doctype _, h => by cases h

theorem exists_prefix_of_mem_pathsIn {count : Lineage → Nat} {around : Lineage} {path q : Path}
    {before : List Node} {index : Nat} :
    (nodes : List Node) → q ∈ pathsIn count around path before index nodes →
      ∃ i, index ≤ i ∧ path ++ [i] <+: q
  | [], h => by cases h
  | node :: after, h => by
    rw [pathsIn] at h
    rcases List.mem_append.mp h with h | h
    · exact ⟨index, Nat.le_refl index, prefix_of_mem_pathsOf node h⟩
    · obtain ⟨i, hle, hi⟩ := exists_prefix_of_mem_pathsIn after h
      exact ⟨i, Nat.le_of_succ_le hle, hi⟩
end

/-- The node itself, or one below it. -/
def below? (node : Node) : Path → Option Node
  | [] => some node
  | i :: s => Node.at? node.children (i :: s)

theorem at?_cons (nodes : List Node) (i : Nat) (s : Path) :
    Node.at? nodes (i :: s) = nodes[i]?.bind (below? · s) := by
  cases s with
  | nil => exact (Option.bind_fun_some _).symm
  | cons j s => rfl

theorem at?_nil (s : Path) : Node.at? [] s = none := by
  cases s with
  | nil => rfl
  | cons i s => rw [at?_cons, List.getElem?_nil, Option.bind_none]

theorem exists_below?_iff {f : Node → Nat} {node : Node} {path q : Path} :
    (∃ s found, q = path ++ s ∧ below? node s = some found ∧ 0 < f found) ↔
      (0 < f node ∧ q = path) ∨ ∃ i s found, q = path ++ i :: s ∧
        Node.at? node.children (i :: s) = some found ∧ 0 < f found := by
  constructor
  · rintro ⟨_ | ⟨i, s⟩, found, rfl, hfound, hpos⟩
    · obtain rfl := Option.some.inj hfound
      exact .inl ⟨hpos, List.append_nil path⟩
    · exact .inr ⟨i, s, found, rfl, hfound, hpos⟩
  · rintro (⟨hpos, rfl⟩ | ⟨i, s, found, rfl, hfound, hpos⟩)
    · exact ⟨[], node, (List.append_nil q).symm, rfl, hpos⟩
    · exact ⟨i :: s, found, rfl, hfound, hpos⟩

/-- A count that looks at the element only, and counts no other nodes. -/
structure CountsBy (count : Lineage → Nat) (f : Node → Nat) : Prop where
  eq : ∀ standing around, count (standing :: around) = f standing.node
  other : ∀ node, Standing.isElement node = false → f node = 0

mutual
theorem CountsBy.mem_pathsOf_iff {count : Lineage → Nat} {f : Node → Nat} (h : CountsBy count f)
    {standing : Standing} {around : Lineage} {path q : Path} :
    (node : Node) → standing.node = node →
      (q ∈ pathsOf count (standing :: around) path node ↔
        ∃ s found, q = path ++ s ∧ below? node s = some found ∧ 0 < f found)
  | .element _ _ children, hnode => by
    rw [pathsOf, List.mem_append, List.mem_replicate, h.eq, hnode, exists_below?_iff,
      h.mem_pathsIn_iff children, Nat.pos_iff_ne_zero]
    simp only [Nat.zero_add]
    rfl
  | .template _ _, hnode => by
    rw [pathsOf, List.mem_replicate, h.eq, hnode, exists_below?_iff, Nat.pos_iff_ne_zero]
    simp [Node.children, at?_nil]
  | .text _, hnode | .comment _, hnode | .instruction .., hnode | .doctype _, hnode => by
    have hzero := h.other standing.node (by rw [hnode]; rfl)
    rw [hnode] at hzero
    rw [exists_below?_iff, hzero]
    simp [pathsOf, Node.children, at?_nil]

theorem CountsBy.mem_pathsIn_iff {count : Lineage → Nat} {f : Node → Nat} (h : CountsBy count f)
    {around : Lineage} {path q : Path} {before : List Node} {index : Nat} :
    (nodes : List Node) → (q ∈ pathsIn count around path before index nodes ↔
      ∃ i s found, q = path ++ (index + i) :: s ∧ Node.at? nodes (i :: s) = some found ∧
        0 < f found)
  | [] => by simp [pathsIn, at?_nil]
  | node :: after => by
    rw [pathsIn, List.mem_append, h.mem_pathsOf_iff node rfl, h.mem_pathsIn_iff after]
    constructor
    · rintro (⟨s, found, rfl, hfound, hpos⟩ | ⟨i, s, found, rfl, hfound, hpos⟩)
      · exact ⟨0, s, found, by simp, by simpa [at?_cons] using hfound, hpos⟩
      · refine ⟨i + 1, s, found, ?_, by simpa [at?_cons] using hfound, hpos⟩
        rw [Nat.add_right_comm, Nat.add_assoc]
    · rintro ⟨_ | i, s, found, rfl, hfound, hpos⟩
      · exact .inl ⟨s, found, by simp, by simpa [at?_cons] using hfound, hpos⟩
      · refine .inr ⟨i, s, found, ?_, by simpa [at?_cons] using hfound, hpos⟩
        rw [Nat.add_right_comm, Nat.add_assoc]
end

/-- Where the count looks at the element only, an element is selected if it counts. -/
theorem CountsBy.mem_select_iff {selector : Selector} {document : Html.Document} {f : Node → Nat}
    (h : CountsBy (selector.count document.old) f) {path : Path} :
    path ∈ selector.select document ↔
      ∃ found, Node.at? document.nodes path = some found ∧ 0 < f found := by
  rw [select, h.mem_pathsIn_iff document.nodes]
  cases path with
  | nil => simp [Node.at?]
  | cons i s => simp [and_assoc]

/-- A relation in which the paths of a page are listed. -/
structure Lists (count : Lineage → Nat) (R : Path → Path → Prop) : Prop where
  same : ∀ lineage path, (List.replicate (count lineage) path).Pairwise R
  down : ∀ p q, Path.isAbove p q → R p q
  side : ∀ path i j s t, i < j → R (path ++ i :: s) (path ++ j :: t)

mutual
theorem Lists.pairwise_pathsOf {count : Lineage → Nat} {R : Path → Path → Prop}
    (h : Lists count R) {lineage : Lineage} {path : Path} :
    (node : Node) → (pathsOf count lineage path node).Pairwise R
  | .element _ _ children => by
    rw [pathsOf, List.pairwise_append]
    refine ⟨h.same lineage path, h.pairwise_pathsIn children, fun p hp q hq => ?_⟩
    obtain ⟨i, -, hi⟩ := exists_prefix_of_mem_pathsIn children hq
    rw [List.eq_of_mem_replicate hp]
    refine h.down path q (Path.isAbove_iff.mpr ⟨(List.prefix_append path [i]).trans hi, ?_⟩)
    rintro rfl
    simpa using hi.length_le
  | .template _ _ => by
    rw [pathsOf]
    exact h.same lineage path
  | .text _ | .comment _ | .instruction .. | .doctype _ => List.Pairwise.nil

theorem Lists.pairwise_pathsIn {count : Lineage → Nat} {R : Path → Path → Prop}
    (h : Lists count R) {around : Lineage} {path : Path} {before : List Node} {index : Nat} :
    (nodes : List Node) → (pathsIn count around path before index nodes).Pairwise R
  | [] => List.Pairwise.nil
  | node :: after => by
    rw [pathsIn, List.pairwise_append]
    refine ⟨h.pairwise_pathsOf node, h.pairwise_pathsIn after, fun p hp q hq => ?_⟩
    obtain ⟨s, rfl⟩ := prefix_of_mem_pathsOf node hp
    obtain ⟨i, hle, t, rfl⟩ := exists_prefix_of_mem_pathsIn after hq
    simpa using h.side path index i s t hle
end

/-- Selected elements are listed in document order, each once if none counts twice. -/
theorem pairwise_select {selector : Selector} {document : Html.Document}
    (h : ∀ lineage, selector.count document.old lineage ≤ 1) :
    (selector.select document).Pairwise (· < ·) := by
  refine Lists.pairwise_pathsIn ⟨?_, fun _ _ => Path.lt_of_isAbove, ?_⟩ document.nodes
  · exact fun lineage path => List.pairwise_replicate.mpr (.inl (h lineage))
  · exact fun path i j s t hij => Path.lt_sibling hij path s t

end Selector
end LuaMarkup
