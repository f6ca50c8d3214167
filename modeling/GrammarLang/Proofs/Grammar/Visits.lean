import GrammarLang.Proofs.Grammar.Safe
import GrammarLang.Proofs.Grammar.SpanTree

/-! # Visits to the nodes of a tree

What a visitor meets, and when, is said on the tree alone. **`Event.children`** are the nodes right
inside a node; an occurrence of a node is a path to it, **`Event.At`**, as a node may be in a tree more
than once. A visitor that does something at each node before it walks on, **`Visitor.announcing`**,
does so in **`Preorder`**: at every occurrence once, in the order of the paths.

* **`announcing_visit`** — a walk with such a visitor goes through the nodes that a recording has.
* **`Preorder.onceEach`** — nodes in preorder are one for each path, the paths in order.
* **`Preorder.orderly`** — where nodes stand in the text in rows, those in preorder stand in its order.

**`events_of_parse`** puts these together for the grammars that are parsed. -/

namespace GrammarLang.Grammar

open GrammarLang.Scan GrammarLang.Text

/-! ## Occurrences -/

/-- The nodes right inside a node, in the order of the text. A terminal that the arena does not know
is no node. -/
def Event.children (arena : Arena) : Event → List Event
  | .production named => named.branches.map .branch
  | .branch choice => choice.components.map .component
  | .component part =>
    part.predicate.toList.map .code ++ part.codeBefore.toList.map .code ++ [.element part.element] ++
      part.suffixes.map .suffix ++ part.codeAfter.toList.map .code
  | .element (.terminal id) => ((arena.get? id).map (.terminal id)).toList
  | .element (.group _ branches) => branches.map .branch
  | .element (.negation inner) => [.element inner]
  | .terminal _ _ => []
  | .suffix _ => []
  | .code _ => []

/-- The outermost nodes of a grammar. -/
def roots (grammar : Grammar) : List Event := grammar.productions.map .production

/-- A path from some nodes to a node: which of the nodes, then which of those right inside it, and so
on. -/
inductive Event.At (arena : Arena) : List Event → List Nat → Event → Prop
  /-- The node is one of these. -/
  | here {nodes : List Event} {index : Nat} {node : Event} (found : nodes[index]? = some node) :
      At arena nodes [index] node
  /-- The node is inside one of these. -/
  | inside {nodes : List Event} {index : Nat} {node inner : Event} {path : List Nat}
      (found : nodes[index]? = some node) (further : At arena (node.children arena) path inner) :
      At arena nodes (index :: path) inner

/-- Some nodes and all those inside them are listed, each node before those inside it and these before
the next one. -/
inductive Preorder (arena : Arena) : List Event → List Event → Prop
  /-- There are no nodes. -/
  | nil : Preorder arena [] []
  /-- A node, then what is inside it, then the others. -/
  | cons {node : Event} {others inner more : List Event}
      (inside : Preorder arena (node.children arena) inner) (further : Preorder arena others more) :
      Preorder arena (node :: others) (node :: (inner ++ more))

variable {arena : Arena}

namespace Preorder

theorem append {left right found more : List Event} (h : Preorder arena left found)
    (h' : Preorder arena right more) : Preorder arena (left ++ right) (found ++ more) := by
  induction h with
  | nil => exact h'
  | cons inside further _ ih =>
    rw [List.cons_append, List.cons_append, List.append_assoc]
    exact .cons inside ih

/-- A node, and what is inside it. -/
theorem single {node : Event} {inner : List Event} (h : Preorder arena (node.children arena) inner) :
    Preorder arena [node] (node :: inner) := by
  have hcons : Preorder arena [node] (node :: (inner ++ [])) := .cons h .nil
  rwa [List.append_nil] at hcons

/-- A node with nothing inside. -/
theorem leaf {node : Event} (h : node.children arena = []) : Preorder arena [node] [node] :=
  .single (by rw [h]; exact .nil)

end Preorder

/-! ## Walks -/

/-- Does something at each node and then walks on. -/
def Visitor.announcing {State : Type} (act : Event → State → State) : Visitor State where
  production node walkOn state := walkOn (act (.production node) state)
  branch node walkOn state := walkOn (act (.branch node) state)
  component node walkOn state := walkOn (act (.component node) state)
  element node walkOn state := walkOn (act (.element node) state)
  terminal id node state := act (.terminal id node) state
  suffix node state := act (.suffix node) state
  code node state := act (.code node) state

/-- A way to change a state, given what is done at each node. -/
abbrev Walk := ∀ State : Type, (Event → State → State) → State → State

/-- A walk goes through some nodes and all those inside them in preorder. -/
def GoesThrough (arena : Arena) (nodes : List Event) (walk : Walk) : Prop :=
  ∃ found, Preorder arena nodes found ∧ ∀ (State : Type) (act : Event → State → State) (state : State),
    walk State act state = found.foldl (fun reached node => act node reached) state

namespace GoesThrough

variable {nodes others : List Event} {walk further : Walk}

theorem nothing : GoesThrough arena [] fun _ _ state => state :=
  ⟨[], .nil, fun _ _ _ => rfl⟩

/-- One walk goes on where another one has ended. -/
theorem append (h : GoesThrough arena nodes walk) (h' : GoesThrough arena others further) :
    GoesThrough arena (nodes ++ others) fun State act state => further State act (walk State act state) := by
  obtain ⟨found, hfound, hwalk⟩ := h
  obtain ⟨more, hmore, hfurther⟩ := h'
  refine ⟨found ++ more, hfound.append hmore, fun State act state => ?_⟩
  show further State act (walk State act state) = _
  rw [hwalk, hfurther, List.foldl_append]

/-- A walk through what is inside a node comes behind the node. -/
theorem inside {node : Event} (h : GoesThrough arena (node.children arena) walk) :
    GoesThrough arena [node] fun State act state => walk State act (act node state) := by
  obtain ⟨found, hfound, hwalk⟩ := h
  exact ⟨node :: found, .single hfound, fun State act state => hwalk State act (act node state)⟩

theorem leaf {node : Event} (h : node.children arena = []) :
    GoesThrough arena [node] fun _ act state => act node state :=
  ⟨[node], .leaf h, fun _ _ _ => rfl⟩

theorem code (segment : Option CodeSegment) : GoesThrough arena (segment.toList.map .code)
    fun _ act state => (Visitor.announcing act).visitCode segment state := by
  cases segment with
  | none => exact nothing
  | some segment => exact leaf rfl

theorem suffixes (repeats : List Suffix) : GoesThrough arena (repeats.map .suffix)
    fun _ act state => (Visitor.announcing act).visitSuffixes repeats state := by
  induction repeats with
  | nil => exact nothing
  | cons first others ih => exact (leaf rfl).append ih

theorem terminal (arena : Arena) (id : TerminalId) :
    GoesThrough arena ((Event.element (.terminal id)).children arena)
      fun _ act state => (Visitor.announcing act).visitTerminal arena id state := by
  simp only [Event.children, Visitor.visitTerminal]
  cases arena.get? id with
  | none => exact nothing
  | some terminal => exact leaf rfl

end GoesThrough

mutual

/-- A walk through a branch goes through it and all that is inside. -/
theorem goesThrough_branch (arena : Arena) : (branch : Branch) →
    GoesThrough arena [.branch branch] fun _ act => (Visitor.announcing act).visitBranch arena branch
  | ⟨_, components⟩ => (goesThrough_components arena components).inside

theorem goesThrough_components (arena : Arena) : (components : List Component) →
    GoesThrough arena (components.map .component)
      fun _ act => (Visitor.announcing act).visitComponents arena components
  | [] => .nothing
  | first :: others =>
    (goesThrough_component arena first).append (goesThrough_components arena others)

theorem goesThrough_component (arena : Arena) : (component : Component) →
    GoesThrough arena [.component component]
      fun _ act => (Visitor.announcing act).visitComponent arena component
  | ⟨span, label, predicate, codeBefore, element, repeats, codeAfter⟩ => by
    have hinside : GoesThrough arena ((Event.component
        ⟨span, label, predicate, codeBefore, element, repeats, codeAfter⟩).children arena) _ :=
      (((GoesThrough.code predicate).append (.code codeBefore)).append
        (goesThrough_element arena element)).append (.suffixes repeats) |>.append (.code codeAfter)
    exact hinside.inside

theorem goesThrough_element (arena : Arena) : (element : Element) →
    GoesThrough arena [.element element]
      fun _ act => (Visitor.announcing act).visitElement arena element
  | .terminal id => (GoesThrough.terminal arena id).inside
  | .group _ branches => (goesThrough_branches arena branches).inside
  | .negation inner => (goesThrough_element arena inner).inside

theorem goesThrough_branches (arena : Arena) : (branches : List Branch) →
    GoesThrough arena (branches.map .branch)
      fun _ act => (Visitor.announcing act).visitBranches arena branches
  | [] => .nothing
  | first :: others =>
    (goesThrough_branch arena first).append (goesThrough_branches arena others)

end

theorem goesThrough_productions (arena : Arena) (productions : List Production) :
    GoesThrough arena (productions.map .production) fun _ act state =>
      productions.foldl (fun reached production =>
        (Visitor.announcing act).visitProduction arena production reached) state := by
  induction productions with
  | nil => exact .nothing
  | cons first others ih => exact (goesThrough_branches arena first.branches).inside.append ih

/-- **A visitor that does something at each node and then walks on does so at the nodes of a
recording**, and these are the nodes of the tree in preorder. -/
theorem announcing_visit (grammar : Grammar) :
    Preorder grammar.arena (roots grammar) (events grammar) ∧
      ∀ (State : Type) (act : Event → State → State) (state : State),
        (Visitor.announcing act).visit grammar state =
          (events grammar).foldl (fun reached node => act node reached) state := by
  obtain ⟨found, hfound, hwalk⟩ := goesThrough_productions grammar.arena grammar.productions
  -- A recording is one of these walks: it puts each node behind those met before.
  have hevents : events grammar = found := by
    have hrecorded : Visitor.recorder.visit grammar #[] =
        found.foldl (fun reached node => reached.push node) #[] :=
      hwalk (Array Event) (fun node reached => reached.push node) #[]
    rw [events, hrecorded, List.foldl_push_eq_append]
    simp
  rw [hevents]
  exact ⟨hfound, hwalk⟩

/-! ## Paths -/

/-- The path among nodes that come behind one more. -/
def nextPath : List Nat → List Nat
  | [] => []
  | index :: path => (index + 1) :: path

theorem nextPath_lt {path other : List Nat} (h : path < other) : nextPath path < nextPath other := by
  cases other with
  | nil => exact absurd h (List.not_lt_nil _)
  | cons index other =>
    cases path with
    | nil => exact List.nil_lt_cons _ _
    | cons index' path =>
      rw [nextPath, nextPath, List.cons_lt_cons_iff]
      obtain hlt | ⟨rfl, hrest⟩ := List.cons_lt_cons_iff.1 h
      · exact .inl (Nat.succ_lt_succ hlt)
      · exact .inr ⟨rfl, hrest⟩

/-- A path into the first node comes before those behind it. -/
theorem cons_lt_nextPath (path : List Nat) {other : List Nat} (h : other ≠ []) :
    0 :: path < nextPath other := by
  obtain ⟨index, other, rfl⟩ := List.exists_cons_of_ne_nil h
  exact List.cons_lt_cons_iff.2 (.inl (Nat.succ_pos _))

namespace Event.At

variable {nodes : List Event} {path : List Nat} {first node : Event}

theorem ne_nil (h : Event.At arena nodes path node) : path ≠ [] := by
  cases h <;> exact List.cons_ne_nil _ _

theorem forall_ne_nil {paths : List (List Nat)} {found : List Event}
    (h : List.Forall₂ (Event.At arena nodes) paths found) : ∀ path ∈ paths, path ≠ [] := by
  induction h with
  | nil => simp
  | cons hat _ ih => exact List.forall_mem_cons.2 ⟨hat.ne_nil, ih⟩

/-- A path behind the first node. -/
theorem next (h : Event.At arena nodes path node) :
    Event.At arena (first :: nodes) (nextPath path) node := by
  cases h with
  | here found => exact .here found
  | inside found further => exact .inside found further

/-- A path leads to the first node, to what is inside it, or to what comes behind. -/
theorem cases_cons (h : Event.At arena (first :: nodes) path node) :
    path = [0] ∨ (∃ inner, path = 0 :: inner ∧ Event.At arena (first.children arena) inner node) ∨
      ∃ behind, path = nextPath behind ∧ Event.At arena nodes behind node := by
  cases h with
  | @here _ index _ found =>
    cases index with
    | zero => exact .inl rfl
    | succ index => exact .inr (.inr ⟨[index], rfl, .here found⟩)
  | @inside _ index _ _ path found further =>
    cases index with
    | zero =>
      cases found
      exact .inr (.inl ⟨path, rfl, further⟩)
    | succ index => exact .inr (.inr ⟨index :: path, rfl, .inside found further⟩)

end Event.At

/-- Nodes are listed once for each path that leads to them, in the order of the paths. -/
def OnceEach (arena : Arena) (nodes found : List Event) : Prop :=
  ∃ paths, List.Forall₂ (Event.At arena nodes) paths found ∧ paths.Pairwise (· < ·) ∧
    ∀ path node, Event.At arena nodes path node → path ∈ paths

/-- **Nodes in preorder are listed once for each path.** -/
theorem Preorder.onceEach {nodes found : List Event} (h : Preorder arena nodes found) :
    OnceEach arena nodes found := by
  induction h with
  | nil =>
    refine ⟨[], .nil, .nil, fun path node hat => ?_⟩
    cases hat <;> contradiction
  | @cons node others inner more inside further ihInside ihFurther =>
    obtain ⟨inward, hinward, hinwardOrder, hinwardAll⟩ := ihInside
    obtain ⟨behind, hbehind, hbehindOrder, hbehindAll⟩ := ihFurther
    -- First the path to the node itself, then those that go through it, then those past it.
    refine ⟨[0] :: (inward.map (0 :: ·) ++ behind.map nextPath), ?_, ?_, ?_⟩
    · refine .cons (.here rfl) (List.rel_append ?_ ?_)
      · exact List.forall₂_map_left_iff.2 (hinward.imp fun _ _ hat => .inside rfl hat)
      · exact List.forall₂_map_left_iff.2 (hbehind.imp fun _ _ hat => hat.next)
    · -- Paths are compared step by step, so one that goes on further comes later.
      have hfirst : ∀ path ∈ inward.map (0 :: ·) ++ behind.map nextPath, [0] < path := by
        simp only [List.forall_mem_append, List.forall_mem_map]
        refine ⟨fun path hpath => ?_, fun path hpath => ?_⟩
        · obtain ⟨index, path, rfl⟩ :=
            List.exists_cons_of_ne_nil (Event.At.forall_ne_nil hinward path hpath)
          exact List.cons_lt_cons_iff.2 (.inr ⟨rfl, List.nil_lt_cons _ _⟩)
        · exact cons_lt_nextPath [] (Event.At.forall_ne_nil hbehind path hpath)
      refine List.pairwise_cons.2 ⟨hfirst, List.pairwise_append.2 ⟨?_, ?_, ?_⟩⟩
      · exact List.pairwise_map.2 (hinwardOrder.imp fun hlt =>
          List.cons_lt_cons_iff.2 (.inr ⟨rfl, hlt⟩))
      · exact List.pairwise_map.2 (hbehindOrder.imp nextPath_lt)
      · simp only [List.forall_mem_map]
        intro path _ other hother
        exact cons_lt_nextPath path (Event.At.forall_ne_nil hbehind other hother)
    · intro path event hat
      obtain rfl | ⟨inner, rfl, hinner⟩ | ⟨rest, rfl, hrest⟩ := hat.cases_cons
      · exact List.mem_cons_self
      · exact List.mem_cons_of_mem _ (List.mem_append_left _
          (List.mem_map_of_mem (hinwardAll inner event hinner)))
      · exact List.mem_cons_of_mem _ (List.mem_append_right _
          (List.mem_map_of_mem (hbehindAll rest event hrest)))

/-! ## Places in the text -/

/-- What has a place in the text, among the nodes that a visitor meets. -/
def Event.node? : Event → Option Node
  | .production named => some (.production named)
  | .branch choice => some (.branch choice)
  | .component part => some (.component part)
  | .element _ => none
  | .terminal _ _ => none
  | .suffix _ => none
  | .code segment => some (.code segment)

/-- What has a place, of a node and those inside it, but for what is inside of that again. -/
def Event.outermost : Event → List Node
  | .production named => [.production named]
  | .branch choice => [.branch choice]
  | .component part => [.component part]
  | .element content => content.branches.map .branch
  | .terminal _ _ => []
  | .suffix _ => []
  | .code segment => [.code segment]

/-- Nodes that each have a place are the outermost ones of themselves. -/
theorem outermost_map {α : Type} (event : α → Event) (node : α → Node)
    (h : ∀ value, (event value).outermost = [node value]) (values : List α) :
    (values.map event).flatMap Event.outermost = values.map node := by
  rw [List.flatMap_map, List.map_eq_flatMap]
  exact congrArg (values.flatMap ·) (funext h)

/-- What has a place inside a node that has one itself stands right inside it. -/
theorem Event.outermost_of_node? (arena : Arena) {event : Event} {node : Node} (h : event.node? = some node) :
    event.outermost = [node] ∧ (event.children arena).flatMap Event.outermost = node.children := by
  cases event with
  | production named =>
    cases h
    exact ⟨rfl, outermost_map _ _ (fun _ => rfl) named.branches⟩
  | branch choice =>
    cases h
    exact ⟨rfl, outermost_map _ _ (fun _ => rfl) choice.components⟩
  | component part =>
    cases h
    have hcode (segments : List CodeSegment) :
        (segments.map Event.code).flatMap Event.outermost = segments.map .code :=
      outermost_map _ _ (fun _ => rfl) segments
    have hsuffixes : (part.suffixes.map Event.suffix).flatMap Event.outermost = [] := by
      rw [List.flatMap_map]
      exact List.flatMap_eq_nil_iff.2 fun _ _ => rfl
    refine ⟨rfl, ?_⟩
    simp only [Event.children, List.flatMap_append, hcode, hsuffixes, List.append_nil, Node.children,
      Node.codeInFront, List.map_append, List.flatMap_singleton]
    rfl
  | code segment =>
    cases h
    exact ⟨rfl, rfl⟩
  | element content => contradiction
  | terminal id terminal => contradiction
  | suffix suffix => contradiction

/-- What has a place inside a node that has none is what is outermost there. -/
theorem Event.outermost_children (arena : Arena) {event : Event} (h : event.node? = none) :
    (event.children arena).flatMap Event.outermost = event.outermost := by
  cases event with
  | element content =>
    cases content with
    | terminal id =>
      rw [Event.children]
      cases arena.get? id <;> rfl
    | group kind branches => exact outermost_map _ _ (fun _ => rfl) branches
    | negation inner => exact List.flatMap_singleton _ _
  | terminal id terminal => rfl
  | suffix suffix => rfl
  | _ => contradiction

/-- A node starts no later than another one, and if it is code then it stops before that. -/
structure Node.Precedes (left right : Node) : Prop where
  /-- The first one does not start later. -/
  start_le : left.span.start ≤ right.span.start
  /-- Code stops before the second one starts. -/
  stop_le : ∀ segment, left = .code segment → left.span.stop ≤ right.span.start

variable {grammar : Grammar}

/-- Nodes of a grammar stand in the order of the text between two offsets. -/
structure Orderly (grammar : Grammar) (low high : Nat) (nodes : List Node) : Prop where
  /-- They are nodes of the grammar. -/
  has : ∀ node ∈ nodes, grammar.Has node
  /-- They stand between the offsets. -/
  bounds : ∀ node ∈ nodes, low ≤ node.span.start ∧ node.span.start ≤ node.span.stop ∧
    node.span.stop ≤ high
  /-- Each of them precedes those that come later. -/
  ordered : nodes.Pairwise Node.Precedes

namespace Orderly

variable {low middle high : Nat} {nodes others : List Node} {node : Node}

theorem nil (grammar : Grammar) (low high : Nat) : grammar.Orderly low high [] :=
  ⟨by simp, by simp, .nil⟩

/-- Nodes up to some offset precede those from there on. -/
theorem append (hlow : low ≤ middle) (hhigh : middle ≤ high) (h : grammar.Orderly low middle nodes)
    (h' : grammar.Orderly middle high others) : grammar.Orderly low high (nodes ++ others) := by
  refine ⟨List.forall_mem_append.2 ⟨h.has, h'.has⟩, List.forall_mem_append.2 ⟨?_, ?_⟩,
    List.pairwise_append.2 ⟨h.ordered, h'.ordered, fun left hleft right hright => ?_⟩⟩
  · intro left hleft
    have hbounds := h.bounds left hleft
    omega
  · intro right hright
    have hbounds := h'.bounds right hright
    omega
  · have hbounds := h.bounds left hleft
    have hbounds' := h'.bounds right hright
    exact ⟨by omega, fun _ _ => by omega⟩

/-- A node precedes those inside it. -/
theorem cons (hhas : grammar.Has node) (hspan : node.span.start ≤ node.span.stop)
    (hcode : ∀ segment, node = .code segment → nodes = [])
    (h : grammar.Orderly node.span.start node.span.stop nodes) :
    grammar.Orderly node.span.start node.span.stop (node :: nodes) := by
  refine ⟨List.forall_mem_cons.2 ⟨hhas, h.has⟩, List.forall_mem_cons.2 ⟨by omega, h.bounds⟩,
    List.pairwise_cons.2 ⟨fun inner hinner => ⟨(h.bounds inner hinner).1, ?_⟩, h.ordered⟩⟩
  intro segment heq
  rw [hcode segment heq] at hinner
  contradiction

/-- Nodes between two offsets are between offsets further apart. -/
theorem widen (hlow : low ≤ node.span.start) (hhigh : node.span.stop ≤ high)
    (h : grammar.Orderly node.span.start node.span.stop nodes) : grammar.Orderly low high nodes := by
  refine ⟨h.has, fun inner hinner => ?_, h.ordered⟩
  have hbounds := h.bounds inner hinner
  omega

end Orderly

/-- There is nothing inside code. -/
theorem Preorder.eq_nil_of_code {event : Event} {segment : CodeSegment} {found : List Event}
    (hcode : event.node? = some (.code segment)) (h : Preorder arena (event.children arena) found) :
    found = [] := by
  cases event with
  | code segment =>
    cases h
    rfl
  | _ => simp [Event.node?] at hcode

/-- **Nodes in preorder are in the order of the text**, if what is right inside each of them stands
there in a row. -/
theorem Preorder.orderly (hrows : grammar.InRows) {nodes found : List Event}
    (h : Preorder arena nodes found) (hhas : ∀ node ∈ nodes.flatMap Event.outermost, grammar.Has node)
    {low high : Nat} (hrow : Row low ((nodes.flatMap Event.outermost).map Node.span) high) :
    grammar.Orderly low high (found.filterMap Event.node?) := by
  induction h generalizing low high with
  | nil => exact .nil grammar low high
  | @cons event others inner more inside further ihInside ihFurther =>
    rw [List.flatMap_cons, List.forall_mem_append] at hhas
    rw [List.flatMap_cons, List.map_append] at hrow
    obtain ⟨middle, hhere, hbehind⟩ := Row.exists_of_append hrow
    have hmore := ihFurther hhas.2 hbehind
    cases hnode : event.node? with
    | none =>
      -- Nothing is listed for the node itself, and what is outermost inside it is in the row.
      rw [Event.outermost_children arena hnode] at ihInside
      rw [List.filterMap_cons_none hnode, List.filterMap_append]
      exact (ihInside hhas.1 hhere).append hhere.le hbehind.le hmore
    | some node =>
      -- The node is in the row, and what is right inside it stands in a row of its own.
      obtain ⟨houtermost, hchildren⟩ := Event.outermost_of_node? arena hnode
      rw [houtermost] at hhas hhere
      rw [hchildren] at ihInside
      have hself : grammar.Has node := hhas.1 node (List.mem_singleton_self node)
      have hle := hhere.le
      obtain ⟨hstart, hspan, hstop⟩ := hhere
      have hinner := ihInside (fun child hchild => .child hself hchild) (hrows node hself)
      have hcode (segment : CodeSegment) (heq : node = .code segment) :
          inner.filterMap Event.node? = [] := by
        subst heq
        rw [inside.eq_nil_of_code hnode, List.filterMap_nil]
      have hwhole := Orderly.cons hself hspan hcode hinner
      rw [List.filterMap_cons_some hnode, List.filterMap_append, ← List.cons_append]
      exact (hwhole.widen hstart hstop).append hle hbehind.le hmore

/-! ## Recordings of parsed grammars -/

/-- The code that a visitor met. -/
def Event.code? : Event → Option CodeSegment
  | .code segment => some segment
  | _ => none

/-- The terminal that a visitor met, with its place in the arena. -/
def Event.terminal? : Event → Option (TerminalId × Terminal)
  | .terminal id content => some (id, content)
  | _ => none

/-- Where a production, branch or component starts that a visitor met. -/
def Event.start? : Event → Option Nat
  | .production named => some named.span.start
  | .branch choice => some choice.span.start
  | .component part => some part.span.start
  | _ => none

theorem Event.node?_of_code? {event : Event} {segment : CodeSegment}
    (h : event.code? = some segment) : event.node? = some (.code segment) := by
  cases event with
  | code segment => exact congrArg _ (congrArg _ (Option.some.inj h))
  | _ => simp [Event.code?] at h

theorem Event.exists_node?_of_start? {event : Event} {start : Nat} (h : event.start? = some start) :
    ∃ node, event.node? = some node ∧ node.span.start = start := by
  cases event with
  | production named => exact ⟨_, rfl, Option.some.inj h⟩
  | branch choice => exact ⟨_, rfl, Option.some.inj h⟩
  | component part => exact ⟨_, rfl, Option.some.inj h⟩
  | _ => simp [Event.start?] at h

/-- What a visitor meets in a parsed grammar stands in the order of the text. -/
theorem orderly_of_parse {source : Source} (h : (parse source).result = .ok grammar) :
    ∃ low high, grammar.Orderly low high ((events grammar).filterMap Event.node?) := by
  have hrows := inRows_of_parse h
  have hroots : (roots grammar).flatMap Event.outermost = grammar.productions.map .production :=
    outermost_map _ _ (fun _ => rfl) grammar.productions
  have hrow : Row grammar.span.start ((grammar.productions.map Node.production).map Node.span)
      grammar.span.stop := hrows _ .self
  rw [← hroots] at hrow
  refine ⟨_, _, (announcing_visit grammar).1.orderly hrows (fun node hnode => ?_) hrow⟩
  rw [hroots] at hnode
  exact .child .self hnode

/-- Code has braces at least. -/
theorem code_nonempty_of_parse {source : Source} (h : (parse source).result = .ok grammar)
    {segment : CodeSegment} (hcode : grammar.Has (.code segment)) :
    segment.span.start < segment.span.stop := by
  obtain ⟨sets, hparse⟩ := exists_tokens_of_parse h
  obtain ⟨start, stop, hstart, -, hread, -⟩ := hcode.readOnCourse hparse
  have hcovers := Parser.codeSegment_covers hstart hread
  rw [hcovers.span_eq]
  exact hcovers.nonempty

/-- A visitor that does something of its own at terminals only goes through the terminals of the
recording. -/
theorem visit_terminals {State : Type} (act : TerminalId → Terminal → State → State)
    (grammar : Grammar) (state : State) :
    ({ terminal := act } : Visitor State).visit grammar state =
      ((events grammar).filterMap Event.terminal?).foldl
        (fun reached found => act found.1 found.2 reached) state := by
  -- Where a visitor does nothing of its own, it walks on, as one does that has nothing to do there.
  have hannouncing : ({ terminal := act } : Visitor State) =
      .announcing fun node reached =>
        node.terminal?.elim reached fun found => act found.1 found.2 reached := rfl
  rw [hannouncing, (announcing_visit grammar).2, List.foldl_filterMap]
  congr 1
  funext reached node
  cases node.terminal? <;> rfl

theorem occurrences_eq_map (grammar : Grammar) :
    grammar.occurrences = ((events grammar).filterMap Event.terminal?).map Prod.fst := by
  have hvisit := visit_terminals (fun id _ (ids : Array TerminalId) => ids.push id) grammar #[]
  change Visitor.terminalCollector.visit grammar #[] = _ at hvisit
  rw [occurrences, hvisit, List.foldl_push_eq_append]
  simp

/-- **A visitor meets everything in a parsed grammar once, in the order of the text.** A recording has
each node once for every path to it, in the order of the paths, and so before what is inside the node.
Its terminals are those of the tree from left to right. Code comes in the order of its places, none of
which overlap, and productions, branches and components come in the order in which they start. A
visitor that does something at terminals only does so at those of the recording. -/
theorem events_of_parse {source : Source} (h : (parse source).result = .ok grammar) :
    OnceEach grammar.arena (roots grammar) (events grammar) ∧
    ((events grammar).filterMap Event.terminal?).map Prod.fst =
      leavesOfProductions grammar.productions ∧
    ((events grammar).filterMap Event.code?).Pairwise (fun left right =>
      left.span.compare right.span = .lt ∧ left.span.stop ≤ right.span.start) ∧
    ((events grammar).filterMap Event.start?).Pairwise (· ≤ ·) ∧
    ∀ (State : Type) (act : TerminalId → Terminal → State → State) (state : State),
      ({ terminal := act } : Visitor State).visit grammar state =
        ((events grammar).filterMap Event.terminal?).foldl
          (fun reached found => act found.1 found.2 reached) state := by
  obtain ⟨low, high, horderly⟩ := orderly_of_parse h
  have hordered := List.pairwise_filterMap.1 horderly.ordered
  refine ⟨(announcing_visit grammar).1.onceEach, ?_, List.pairwise_filterMap.2 ?_,
    List.pairwise_filterMap.2 ?_, fun State act state => visit_terminals act grammar state⟩
  · rw [← occurrences_eq_map, (safeIn_of_parse h).occurrences]
  · refine hordered.imp_of_mem fun {left right} hleft _ hprecedes segment hsegment other hother => ?_
    have hnode := Event.node?_of_code? hsegment
    have hstop := (hprecedes _ hnode _ (Event.node?_of_code? hother)).stop_le segment rfl
    -- Code is not empty, so what stops before other code also starts before it.
    have hnonempty := code_nonempty_of_parse h
      (horderly.has _ (List.mem_filterMap.2 ⟨left, hleft, hnode⟩))
    have hlt : segment.span.start < other.span.start := Nat.lt_of_lt_of_le hnonempty hstop
    exact ⟨by rw [Span.compare, Nat.compare_eq_lt.2 hlt]; rfl, hstop⟩
  · refine hordered.imp fun {left right} hprecedes start hstart other hother => ?_
    obtain ⟨node, hnode, rfl⟩ := Event.exists_node?_of_start? hstart
    obtain ⟨node', hnode', rfl⟩ := Event.exists_node?_of_start? hother
    exact (hprecedes _ hnode _ hnode').start_le

/-- A recording of a grammar with code, groups, suffixes, and a terminal that occurs three times. -/
theorem events_of_parse_nested : ∃ grammar,
    (parse (.ofString "grammar T { a : {p}? x (y | ~(?= z) (?! x)*) {q} ; b : x+ ; }")).result =
      .ok grammar ∧
    ((events grammar).filterMap Event.code?).map CodeSegment.text = ["p", "q"] ∧
    ((events grammar).filterMap Event.start?).Pairwise (· ≤ ·) ∧
    OnceEach grammar.arena (roots grammar) (events grammar) ∧
    ((events grammar).filterMap Event.terminal?).map Prod.fst =
      leavesOfProductions grammar.productions ∧
    Visitor.terminalCollector.visit grammar #[] =
      ((events grammar).filterMap Event.terminal?).foldl (fun ids found => ids.push found.1) #[] := by
  have hcodes : (parse (.ofString
      "grammar T { a : {p}? x (y | ~(?= z) (?! x)*) {q} ; b : x+ ; }")).result.toOption.map
      (fun grammar => ((events grammar).filterMap Event.code?).map CodeSegment.text) =
        some ["p", "q"] := by
    rw [result_parse_words]
    decide +kernel
  obtain ⟨grammar, hsome, htexts⟩ := Option.map_eq_some_iff.1 hcodes
  have hparsed := ok_of_toOption hsome
  obtain ⟨honce, hterminals, -, hstarts, hvisits⟩ := events_of_parse hparsed
  exact ⟨grammar, hparsed, htexts, hstarts, honce, hterminals,
    hvisits _ (fun id _ ids => ids.push id) #[]⟩

end GrammarLang.Grammar
