import Mathlib
import LuaMarkup.Page.Highlight
import LuaMarkup.Proofs.Marker
import LuaMarkup.Proofs.Selection

/-!
# Pages printed with contents of their own

`Library.printWith` prints a page in which some elements have a content that is printed as it
is, and no white-space styling. It changes no tree, so it says what a page with markers stands
for. A marked element prints as one whose content is its marker (`Library.printWith_modifyAt`).
-/

namespace LuaMarkup.Html

open Node (Path)

namespace Printer

section
variable (printer : Printer)

mutual
/-- A node as markup, some elements with contents given by their paths. Elements that print no
children print no content, and a template keeps its own. -/
def printWith (contents : Path → Option Text) (parent : Option Tag) (path : Path) : Node → Text
  | .element tag attributes children =>
    match contents path with
    | some content =>
      printer.startTag tag (Style.dropWhiteSpace attributes) ++ '>' ::
        ((if printer.shows tag then content else []) ++ printer.endTag tag)
    | none =>
      printer.startTag tag attributes ++ '>' ::
        ((if printer.shows tag then printAllWith contents (some tag) path 0 children else []) ++
          printer.endTag tag)
  | .template attributes content =>
    printer.startTag .template
        (if (contents path).isSome then Style.dropWhiteSpace attributes else attributes) ++ '>' ::
      (printer.printAll (some .template) content ++ printer.endTag .template)
  | node => printer.leaf parent node

/-- Siblings, the first of which has the number `index`. -/
def printAllWith (contents : Path → Option Text) (parent : Option Tag) (path : Path)
    (index : Nat) : List Node → Text
  | [] => []
  | node :: rest =>
    printWith contents parent (path ++ [index]) node ++
      printAllWith contents parent path (index + 1) rest
end

/-- What an element with these children holds. -/
def heldWith (contents : Path → Option Text) (tag : Tag) (path : Path) (children : List Node) :
    Text :=
  (contents path).getD (printer.printAllWith contents (some tag) path 0 children)

/-- What the element at a path holds. -/
def innerWith (contents : Path → Option Text) (nodes : List Node) (path : Path) : Text :=
  match Node.at? nodes path with
  | some (.element tag _ children) => printer.heldWith contents tag path children
  | _ => []

end

variable {printer : Printer} {contents contents' : Path → Option Text}

-- ---------------------------------------------------------------------------
-- Where contents are looked up
-- ---------------------------------------------------------------------------

mutual
/-- Contents are looked up at a node and below it only. -/
theorem printWith_congr {parent : Option Tag} {path : Path} (node : Node)
    (h : ∀ s, contents (path ++ s) = contents' (path ++ s)) :
    printer.printWith contents parent path node =
      printer.printWith contents' parent path node := by
  match node with
  | .element tag attributes children =>
    have hpath : contents path = contents' path := by simpa using h []
    have hchildren : printer.printAllWith contents (some tag) path 0 children =
        printer.printAllWith contents' (some tag) path 0 children :=
      printAllWith_congr children fun i s _ => h (i :: s)
    simp only [printWith, hpath, hchildren]
  | .template attributes content =>
    have hpath : contents path = contents' path := by simpa using h []
    simp only [printWith, hpath]
  | .text _ | .comment _ | .instruction .. | .doctype _ => rfl

theorem printAllWith_congr {parent : Option Tag} {path : Path} {index : Nat} (nodes : List Node)
    (h : ∀ i s, index ≤ i → contents (path ++ i :: s) = contents' (path ++ i :: s)) :
    printer.printAllWith contents parent path index nodes =
      printer.printAllWith contents' parent path index nodes := by
  match nodes with
  | [] => rfl
  | node :: rest =>
    have hnode : ∀ s, contents (path ++ [index] ++ s) = contents' (path ++ [index] ++ s) := by
      simpa using fun s => h index s (Nat.le_refl index)
    rw [printAllWith, printAllWith, printWith_congr node hnode,
      printAllWith_congr rest fun i s hle => h i s (Nat.le_of_succ_le hle)]
end

mutual
theorem printWith_none (parent : Option Tag) (path : Path) (node : Node) :
    printer.printWith (fun _ => none) parent path node = printer.print parent node := by
  match node with
  | .element tag attributes children =>
    simp only [printWith, print, printAllWith_none _ path 0 children]
  | .template attributes content =>
    simp only [printWith, print, Option.isSome_none, Bool.false_eq_true, if_false]
  | .text _ | .comment _ | .instruction .. | .doctype _ => rfl

theorem printAllWith_none (parent : Option Tag) (path : Path) (index : Nat) (nodes : List Node) :
    printer.printAllWith (fun _ => none) parent path index nodes =
      printer.printAll parent nodes := by
  match nodes with
  | [] => rfl
  | node :: rest =>
    rw [printAllWith, printAll, printWith_none parent _ node,
      printAllWith_none parent path (index + 1) rest]
end

end Printer

namespace Node

-- ---------------------------------------------------------------------------
-- Changes at a path
-- ---------------------------------------------------------------------------

/-- Neither path lies on the way to the other. -/
def Beside (p q : Path) : Prop := ¬p <+: q ∧ ¬q <+: p

variable {f : Node → Node} {nodes : List Node} {i j : Nat} {p q rest : Path}

def childrenAt (nodes : List Node) (path : Path) : List Node :=
  ((at? nodes path).map (·.children)).getD []

theorem beside_cons_iff : Beside (i :: p) (j :: q) ↔ (i = j → Beside p q) := by
  simp only [Beside, List.cons_prefix_cons]
  grind

theorem at?_cons_cons : at? nodes (i :: j :: q) = at? (childrenAt nodes [i]) (j :: q) := by
  rw [at?, childrenAt, at?]
  cases nodes[i]? with
  | none => cases q <;> rfl
  | some node => rfl

theorem childrenAt_modifyAt_cons :
    childrenAt (modifyAt f nodes (i :: j :: rest)) [i] =
      modifyAt f (childrenAt nodes [i]) (j :: rest) := by
  have hnil : modifyAt f [] (j :: rest) = [] := by cases rest <;> simp [modifyAt]
  simp only [childrenAt, at?, modifyAt, List.getElem?_modify_eq]
  cases nodes[i]? with
  | none => exact hnil.symm
  | some node => cases node <;> first | rfl | exact hnil.symm

theorem at?_modifyAt_cons_of_ne (h : i ≠ j) :
    at? (modifyAt f nodes (i :: p)) (j :: q) = at? nodes (j :: q) := by
  have hmodify : ∀ g : Node → Node, (nodes.modify i g)[j]? = nodes[j]? := fun _ =>
    List.getElem?_modify_ne _ nodes h
  cases p <;> cases q <;> simp [modifyAt, at?, hmodify]

/-- A change touches nothing apart from it. -/
theorem at?_modifyAt_of_beside (h : Beside p q) : at? (modifyAt f nodes p) q = at? nodes q := by
  induction p generalizing nodes q with
  | nil => rfl
  | cons i p ih =>
    cases q with
    | nil => rfl
    | cons j q =>
      by_cases hij : i = j
      · subst hij
        have hpq := beside_cons_iff.mp h rfl
        cases p with
        | nil => exact absurd (List.nil_prefix) hpq.1
        | cons i' p =>
          cases q with
          | nil => exact absurd (List.nil_prefix) hpq.2
          | cons j' q => rw [at?_cons_cons, childrenAt_modifyAt_cons, ih hpq, at?_cons_cons]
      · exact at?_modifyAt_cons_of_ne hij

theorem at?_modifyAt_self : at? (modifyAt f nodes p) p = (at? nodes p).map f := by
  induction p generalizing nodes with
  | nil => rfl
  | cons i p ih =>
    cases p with
    | nil => simp [at?, modifyAt]
    | cons j p => rw [at?_cons_cons, childrenAt_modifyAt_cons, ih, at?_cons_cons]

/-- An element around a change has changed children. -/
theorem at?_modifyAt_append (hq : q ≠ []) :
    at? (modifyAt f nodes (q ++ j :: rest)) q =
      (at? nodes q).map fun node => node.withChildren (modifyAt f node.children (j :: rest)) := by
  induction q generalizing nodes with
  | nil => exact absurd rfl hq
  | cons i q ih =>
    cases q with
    | nil => simp [at?, modifyAt]
    | cons i' q =>
      rw [List.cons_append, List.cons_append, at?_cons_cons, childrenAt_modifyAt_cons,
        ← List.cons_append, ih (List.cons_ne_nil i' q), at?_cons_cons]

end Node

-- ---------------------------------------------------------------------------
-- Marked nodes
-- ---------------------------------------------------------------------------

namespace Printer

open Node (modifyAt)
open Page.Marking (marked)

/-- The printer leaves ASCII letters and digits as they are. -/
def Plain (printer : Printer) : Prop :=
  ∀ parent content, (∀ c ∈ content, c.isAlphanum) → printer.leaf parent (.text content) = content

variable {printer : Printer} {contents contents' : Path → Option Text} {parent : Option Tag}
  {path rest : Path} {index m i : Nat} {nonce : Text} {f : Node → Node} {nodes : List Node}

/-- The printer leaves a marker as it is. -/
theorem Plain.leaf_write (h : printer.Plain) (hnonce : ∀ c ∈ nonce, c.isAlphanum)
    (parent : Option Tag) (m : Nat) :
    printer.leaf parent (.text (Marker.write nonce m)) = Marker.write nonce m :=
  h parent _ fun _ hc => Marker.isAlphanum_of_mem_write hnonce hc

/-- A marked node prints as the node with the marker for its content. -/
theorem printWith_marked (hplain : printer.Plain) (hnonce : ∀ c ∈ nonce, c.isAlphanum)
    (hnone : contents path = none) (hsome : contents' path = some (Marker.write nonce m))
    (parent : Option Tag) (node : Node) :
    printer.printWith contents parent path (marked nonce m node) =
      printer.printWith contents' parent path node := by
  cases node with
  | element tag attributes children =>
    simp only [marked, Node.withChildren, Node.mapAttributes, printWith, printAllWith, hnone,
      hsome, hplain.leaf_write hnonce, List.append_nil]
  | template attributes content =>
    simp only [marked, Node.withChildren, Node.mapAttributes, printWith, hnone, hsome,
      Option.isSome_none, Option.isSome_some, Bool.false_eq_true, if_false, if_true]
  | text _ | comment _ | instruction _ _ | doctype _ => rfl

/-- Where one of the siblings is printed as another node, so are they all. -/
theorem printAllWith_modify {k : Nat}
    (hnode : ∀ parent node, printer.printWith contents parent (path ++ [index + k]) (f node) =
      printer.printWith contents' parent (path ++ [index + k]) node)
    (hother : ∀ i s, i ≠ index + k → contents (path ++ i :: s) = contents' (path ++ i :: s)) :
    printer.printAllWith contents parent path index (nodes.modify k f) =
      printer.printAllWith contents' parent path index nodes := by
  induction nodes generalizing index k with
  | nil => rw [List.modify_nil]; rfl
  | cons node nodes ih =>
    cases k with
    | zero =>
      rw [List.modify_zero_cons, printAllWith, printAllWith]
      congr 1
      · exact hnode parent node
      · exact printAllWith_congr nodes fun i s hle => hother i s (Nat.ne_of_gt hle)
    | succ k =>
      have hk : index + 1 + k = index + (k + 1) := by omega
      have hsame : ∀ s, contents (path ++ [index] ++ s) = contents' (path ++ [index] ++ s) := by
        simpa using fun s => hother index s (by omega)
      rw [List.modify_succ_cons, printAllWith, printAllWith, printWith_congr node hsame,
        ih (hk ▸ hnode) (hk ▸ hother)]

/-- Contents with one more. -/
theorem printAllWith_modifyAt (hplain : printer.Plain) (hnonce : ∀ c ∈ nonce, c.isAlphanum)
    (path : Path) (index : Nat) (hnone : contents (path ++ (index + i) :: rest) = none) :
    printer.printAllWith contents parent path index (modifyAt (marked nonce m) nodes (i :: rest)) =
      printer.printAllWith (Function.update contents (path ++ (index + i) :: rest)
        (some (Marker.write nonce m))) parent path index nodes := by
  induction rest generalizing nodes path index i parent with
  | nil =>
    refine printAllWith_modify (fun parent node => ?_) fun k s hne =>
      (Function.update_of_ne ?_ ..).symm
    · exact printWith_marked hplain hnonce hnone (Function.update_self ..) parent node
    · simp [hne]
  | cons j rest ih =>
    refine printAllWith_modify (fun parent node => ?_) fun k s hne =>
      (Function.update_of_ne ?_ ..).symm
    · have hbelow : path ++ (index + i) :: j :: rest =
          path ++ [index + i] ++ (0 + j) :: rest := by simp
      have hpath : path ++ [index + i] ≠ path ++ (index + i) :: j :: rest := by simp
      rw [hbelow] at hnone hpath ⊢
      cases node with
      | element tag attributes children =>
        simp only [Node.withChildren, printWith, Function.update_of_ne hpath, Node.children,
          ih _ 0 hnone]
      | template attributes content =>
        simp only [Node.withChildren, printWith, Function.update_of_ne hpath]
      | text _ | comment _ | instruction _ _ | doctype _ => rfl
    · simp [hne]

/-- What is printed inside an element that is not inside of the marked one. -/
theorem innerWith_modifyAt {p b : Path} {tag : Tag} {attributes : List Attribute}
    {children : List Node} (hplain : printer.Plain) (hnonce : ∀ c ∈ nonce, c.isAlphanum)
    (hnone : contents p = none) (hnode : Node.at? nodes b = some (.element tag attributes children))
    (hp : ¬Path.isAbove p b) :
    printer.innerWith contents (modifyAt (marked nonce m) nodes p) b =
      printer.innerWith (Function.update contents p (some (Marker.write nonce m))) nodes b := by
  have hb : b ≠ [] := by
    rintro rfl
    cases hnode
  rw [innerWith, innerWith, hnode]
  by_cases hpb : p = b
  · subst hpb
    rw [Node.at?_modifyAt_self, hnode]
    simp only [Option.map_some, marked, Node.withChildren, Node.mapAttributes, heldWith, hnone,
      Option.getD_none, printAllWith, printWith, hplain.leaf_write hnonce, List.append_nil,
      Function.update_self, Option.getD_some]
  · have hb' : Function.update contents p (some (Marker.write nonce m)) b = contents b :=
      Function.update_of_ne (Ne.symm hpb) ..
    by_cases hbp : b <+: p
    · obtain ⟨_ | ⟨j, rest⟩, rfl⟩ := hbp
      · exact absurd (List.append_nil b) hpb
      · rw [Node.at?_modifyAt_append hb, hnode]
        have hinner : printer.printAllWith contents (some tag) b 0
              (modifyAt (marked nonce m) children (j :: rest)) =
            printer.printAllWith (Function.update contents (b ++ j :: rest)
              (some (Marker.write nonce m))) (some tag) b 0 children := by
          simpa using printAllWith_modifyAt hplain hnonce b 0 (by simpa using hnone)
        simp only [Option.map_some, Node.withChildren, Node.children, heldWith, hb', hinner]
    · have hbeside : Node.Beside p b := ⟨fun h => hp (Path.isAbove_iff.mpr ⟨h, hpb⟩), hbp⟩
      rw [Node.at?_modifyAt_of_beside hbeside, hnode]
      simp only [heldWith, hb']
      congr 1
      refine printAllWith_congr _ fun i s _ => (Function.update_of_ne ?_ ..).symm
      rintro rfl
      exact hbp (List.prefix_append ..)

end Printer

-- ---------------------------------------------------------------------------
-- Pages
-- ---------------------------------------------------------------------------

namespace Library

open Page.Marking (marked)

/-- No element around the one at a path has a content of its own. -/
def IsOpen (contents : Path → Option Text) (path : Path) : Prop :=
  ∀ above, Path.isAbove above path → contents above = none

instance (contents : Path → Option Text) : DecidablePred (IsOpen contents) := fun path =>
  decidable_of_iff (∀ above ∈ path.inits, Path.isAbove above path → (contents above).isNone) <| by
    simp only [Option.isNone_iff_eq_none]
    exact ⟨fun h above habove =>
        h above ((List.mem_inits ..).mpr (Path.isAbove_iff.mp habove).1) habove,
      fun h above _ => h above⟩

/-- Where the body of a page is, if it does not give way to the content of an element around
it. -/
def bodyWith? (lib : Library) (contents : Path → Option Text) (document : Document) :
    Option Path :=
  (lib.body? document).filter (IsOpen contents ·)

/-- All of a page, or what its body holds if it has one. -/
def printWith (lib : Library) (printer : Printer) (contents : Path → Option Text) (full : Bool)
    (document : Document) : Text :=
  match if full then none else lib.bodyWith? contents document with
  | some path => printer.innerWith contents document.nodes path
  | none => printer.printAllWith contents none [] 0 document.nodes

variable {lib : Library} {printer : Printer} {contents : Path → Option Text} {nonce : Text}
  {m : Nat} {full : Bool} {p : Path} {document : Document}

theorem bodyWith?_none (lib : Library) (document : Document) :
    lib.bodyWith? (fun _ => none) document = lib.body? document := by
  rw [bodyWith?]
  cases lib.body? document with
  | none => rfl
  | some path =>
    have hopen : IsOpen (fun _ => none) path := fun _ _ => rfl
    simp [Option.filter, hopen]

/-- A page is printed as the page without contents of its own. -/
theorem Lawful.print?_eq (h : lib.Lawful printer) (full : Bool) (document : Document) :
    Page.print? lib full document = some (lib.printWith printer (fun _ => none) full document) := by
  rw [Page.print?, printWith, bodyWith?_none]
  cases hbody : if full then none else lib.body? document with
  | none => simp only [h.print_eq, Printer.printAllWith_none]
  | some path =>
    have hbody : lib.body? document = some path := by
      cases full
      · exact hbody
      · cases hbody
    obtain ⟨tag, attributes, children, hnode⟩ := h.body_element hbody
    simp only [h.printInner_eq hnode, Printer.innerWith, Printer.heldWith, hnode,
      Option.getD_none, Printer.printAllWith_none]

theorem isOpen_update_iff (hnone : contents p = none) {content : Text} {path : Path} :
    IsOpen (Function.update contents p (some content)) path ↔
      IsOpen contents path ∧ ¬Path.isAbove p path := by
  constructor
  · intro h
    refine ⟨fun above habove => ?_, fun habove => ?_⟩
    · by_cases hp : above = p
      · rw [hp, hnone]
      · simpa [Function.update_of_ne hp] using h above habove
    · simpa using h p habove
  · rintro ⟨hopen, hp⟩ above habove
    have hne : above ≠ p := by
      rintro rfl
      exact hp habove
    rw [Function.update_of_ne hne]
    exact hopen above habove

theorem Lawful.bodyWith?_modifyAt (h : lib.Lawful printer) (hp : p ≠ [])
    (hnone : contents p = none) :
    lib.bodyWith? contents (document.modifyAt (marked nonce m) p) =
      lib.bodyWith? (Function.update contents p (some (Marker.write nonce m))) document := by
  have hbody : lib.body? (document.modifyAt (marked nonce m) p) = _ :=
    h.body_modifyAt document (Marker.write nonce m) Style.dropWhiteSpace p hp
  rw [bodyWith?, bodyWith?, hbody, Option.filter_filter]
  congr 1
  funext path
  rw [Bool.eq_iff_iff, Bool.and_eq_true, decide_eq_true_iff, decide_eq_true_iff,
    isOpen_update_iff hnone, Bool.not_eq_true', ← Bool.not_eq_true]
  exact and_comm

/-- A page with a marker is printed as the page with the marker for a content. -/
theorem Lawful.printWith_modifyAt (h : lib.Lawful printer) (document : Document)
    (hnonce : ∀ c ∈ nonce, c.isAlphanum) (hp : p ≠ []) (hnone : contents p = none) :
    lib.printWith printer contents full (document.modifyAt (marked nonce m) p) =
      lib.printWith printer (Function.update contents p (some (Marker.write nonce m))) full
        document := by
  have hplain : printer.Plain := h.leaf_eq
  rw [printWith, printWith, h.bodyWith?_modifyAt hp hnone]
  split
  · rename_i b hb
    cases full with
    | true => cases hb
    | false =>
      obtain ⟨hbody, hopen⟩ := Option.filter_eq_some_iff.mp hb
      obtain ⟨tag, attributes, children, hnode⟩ := h.body_element hbody
      refine Printer.innerWith_modifyAt hplain hnonce hnone hnode ?_
      exact ((isOpen_update_iff hnone).mp (of_decide_eq_true hopen)).2
  · obtain ⟨k, p, rfl⟩ := List.exists_cons_of_ne_nil hp
    rw [Document.modifyAt]
    simpa using Printer.printAllWith_modifyAt hplain hnonce [] 0 (by simpa using hnone)

end Library
end LuaMarkup.Html
