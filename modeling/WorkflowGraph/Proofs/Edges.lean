import WorkflowGraph.Graph.Build
import WorkflowGraph.Proofs.Tables

/-!
# Edges, callers and attached bodies

The second half of building a graph does two things, over and over: it joins a caller to the key
that the caller names, and it attaches a piece of a body to a declared node.  An `Edge` is one
join.  Where its target has a node, the node learns of one more caller; where it has none, the
target gets a stub.

The two things do not disturb each other, and what they leave of a graph can be said in closed
form, key by key.  `Graph.get?_attachAll` is that statement: the callers of a node are those of
the edges that lead to it, each once and in the order of the edges; a stub has the role of the
first edge that leads to it; and a body has gone through the changes made at its key.
-/

namespace WorkflowGraph

/-- A caller, the key that it names, and the role of the stub that the key may need. -/
structure Edge where
  caller : String
  target : String
  role : NodeRole
deriving DecidableEq, Repr

/-- Adds a caller to a list of callers, unless it is known already. -/
def addCaller (callers : List String) (caller : String) : List String :=
  if callers.contains caller then callers else callers ++ [caller]

/-- Adds callers one after the other. -/
def gather (callers more : List String) : List String := more.foldl addCaller callers

/-- The callers are those that were known, and the new one. -/
theorem mem_addCaller {callers : List String} {caller name : String} :
    name ∈ addCaller callers caller ↔ name ∈ callers ∨ name = caller := by
  unfold addCaller
  split
  · next hknown =>
      have hmem : caller ∈ callers := by simpa using hknown
      constructor
      · exact Or.inl
      · rintro (h | rfl)
        · exact h
        · exact hmem
  · simp

/-- A caller that is known already is not listed again. -/
theorem nodup_addCaller {callers : List String} (caller : String) (h : callers.Nodup) :
    (addCaller callers caller).Nodup := by
  unfold addCaller
  split
  · exact h
  · next hnew =>
      have habsent : caller ∉ callers := by simpa using hnew
      rw [List.nodup_append]
      refine ⟨h, by simp, ?_⟩
      intro a ha b hb
      obtain rfl : b = caller := by simpa using hb
      rintro rfl
      exact habsent ha

/-- Gathering forgets nobody and adds nobody. -/
theorem mem_gather {callers more : List String} {name : String} :
    name ∈ gather callers more ↔ name ∈ callers ∨ name ∈ more := by
  induction more generalizing callers with
  | nil => simp [gather]
  | cons caller more ih =>
      change name ∈ gather (addCaller callers caller) more ↔ _
      rw [ih, mem_addCaller, List.mem_cons, or_assoc]

/-- Gathering lists everybody once. -/
theorem nodup_gather {callers : List String} (more : List String) (h : callers.Nodup) :
    (gather callers more).Nodup := by
  induction more generalizing callers with
  | nil => exact h
  | cons caller more ih => exact ih (nodup_addCaller caller h)

/-- Callers may be gathered in two portions. -/
theorem gather_append (callers first second : List String) :
    gather callers (first ++ second) = gather (gather callers first) second :=
  List.foldl_append

/-- The callers of the edges to a key, in the order of the edges. -/
def callersOf (edges : List Edge) (name : String) : List String :=
  (edges.filter fun edge => edge.target = name).map Edge.caller

/-- The callers of a key are those of the edges that lead to it. -/
theorem mem_callersOf {edges : List Edge} {name caller : String} :
    caller ∈ callersOf edges name ↔
      ∃ edge ∈ edges, edge.target = name ∧ edge.caller = caller := by
  simp [callersOf, and_assoc]

/-- The callers of two lists of edges stand one after the other. -/
theorem callersOf_append (first second : List Edge) (name : String) :
    callersOf (first ++ second) name = callersOf first name ++ callersOf second name := by
  simp [callersOf]

namespace GraphNode

/-- The stub for a name, before it has a caller. -/
def synthesized (name : String) (role : NodeRole) : GraphNode := { name, role, isStub := true }

/-- A node learns of a caller as a list of callers does. -/
theorem addParent_eq (node : GraphNode) (parent : String) :
    node.addParent parent = { node with parents := addCaller node.parents parent } := by
  unfold addParent addCaller
  split <;> rfl

end GraphNode

/-- What the edges to a key leave at that key: its node with the callers of the edges, or a stub
if it had no node. -/
def receive (edges : List Edge) (name : String) : Option GraphNode → Option GraphNode
  | some node => some { node with parents := gather node.parents (callersOf edges name) }
  | none =>
    (edges.find? fun edge => edge.target = name).map fun first =>
      { GraphNode.synthesized name first.role with
        parents := gather [] (callersOf edges name) }

/-- Without edges nothing changes. -/
theorem receive_nil (name : String) (node? : Option GraphNode) :
    receive [] name node? = node? := by
  cases node? <;> rfl

/-- Receiving edges in two portions is receiving them all. -/
theorem receive_append (first second : List Edge) (name : String) (node? : Option GraphNode) :
    receive (first ++ second) name node? = receive second name (receive first name node?) := by
  cases node? with
  | some node => simp [receive, callersOf_append, gather_append]
  | none =>
      cases hfirst : first.find? fun edge => edge.target = name with
      | some edge => simp [receive, hfirst, List.find?_append, callersOf_append, gather_append]
      | none =>
          have hnone : callersOf first name = [] := by
            have hmiss : ∀ edge ∈ first, ¬edge.target = name := by simpa using hfirst
            simp only [callersOf, List.map_eq_nil_iff, List.filter_eq_nil_iff,
              decide_eq_true_eq]
            exact hmiss
          simp [receive, hfirst, List.find?_append, callersOf_append, hnone]

namespace Graph

variable (graph : Graph)

theorem contains_eq_isSome (name : String) : graph.contains name = (graph.get? name).isSome :=
  graph.nodes.contains_eq_isSome name

variable {graph} in
theorem contains_of_get? {name : String} {node : GraphNode} (h : graph.get? name = some node) :
    graph.contains name = true := by
  rw [contains_eq_isSome, h]
  rfl

theorem get?_eq_none_iff {name : String} : graph.get? name = none ↔ graph.contains name = false := by
  rw [contains_eq_isSome]
  cases graph.get? name <;> simp

/-- A caller is added at its key and nowhere else. -/
theorem get?_addParent (key caller name : String) :
    (graph.addParent key caller).get? name =
      if name = key then (graph.get? name).map fun node => node.addParent caller
      else graph.get? name :=
  graph.nodes.get?_modify key name _

/-- A stub is put at its key and changes no other. -/
theorem get?_addStub (key name caller : String) (role : NodeRole) :
    (graph.addStub key role caller).get? name =
      if name = key then some (.stub key role caller) else graph.get? name :=
  graph.nodes.get?_insert key name _

/-- A body is changed at its key and nowhere else. -/
theorem get?_modifyBody (key name : String) (change : Body → Body) :
    (graph.modifyBody key change).get? name =
      if name = key then (graph.get? name).map fun node => { node with body := change node.body }
      else graph.get? name :=
  graph.nodes.get?_modify key name _

/-- Joins a caller to the node that it names, or to a stub for it. -/
def link (edge : Edge) : Graph :=
  if graph.contains edge.target then graph.addParent edge.target edge.caller
  else graph.addStub edge.target edge.role edge.caller

/-- Joins the callers of several edges, one after the other. -/
def linkAll (edges : List Edge) : Graph := edges.foldl link graph

/-- One join is received at its target; at every other key nothing changes. -/
theorem get?_link (edge : Edge) (name : String) :
    (graph.link edge).get? name = receive [edge] name (graph.get? name) := by
  unfold link
  by_cases hname : edge.target = name
  · have hcallers : callersOf [edge] name = [edge.caller] := by simp [callersOf, hname]
    split
    · next hthere =>
        rw [contains_eq_isSome, Option.isSome_iff_exists, hname] at hthere
        obtain ⟨node, hnode⟩ := hthere
        simp [get?_addParent, hname, hnode, receive, hcallers, gather, GraphNode.addParent_eq]
    · next habsent =>
        have hnone : graph.get? name = none := by
          rw [get?_eq_none_iff, ← hname]
          simpa using habsent
        simp [get?_addStub, hname, hnone, receive, hcallers, gather, addCaller,
          GraphNode.synthesized, GraphNode.stub]
  · have hother : ¬name = edge.target := fun h => hname h.symm
    have hcallers : callersOf [edge] name = [] := by simp [callersOf, hname]
    have hkeep : receive [edge] name (graph.get? name) = graph.get? name := by
      cases graph.get? name <;> simp [receive, hcallers, gather, hname]
    rw [hkeep]
    split
    · rw [get?_addParent, if_neg hother]
    · rw [get?_addStub, if_neg hother]

/-- Linking is receiving, key by key. -/
theorem get?_linkAll (edges : List Edge) (name : String) :
    (graph.linkAll edges).get? name = receive edges name (graph.get? name) := by
  induction edges generalizing graph with
  | nil => rw [receive_nil]; rfl
  | cons edge edges ih =>
      calc (graph.linkAll (edge :: edges)).get? name
          = ((graph.link edge).linkAll edges).get? name := rfl
        _ = receive edges name (receive [edge] name (graph.get? name)) := by
            rw [ih, get?_link]
        _ = receive (edge :: edges) name (graph.get? name) :=
            (receive_append [edge] edges name _).symm

end Graph

/-- One round of the second half: the edges of a node, and a change of its body. -/
structure Round where
  key : String
  edges : List Edge
  change : Body → Body

/-- The body at a key after the changes that some rounds make there. -/
def bodyAfter (rounds : List Round) (name : String) (body : Body) : Body :=
  (rounds.filter fun round => round.key = name).foldl (fun body round => round.change body) body

/-- Rounds of other keys leave the body as it is. -/
theorem bodyAfter_eq_self {rounds : List Round} {name : String} (body : Body)
    (h : ∀ round ∈ rounds, round.key ≠ name) : bodyAfter rounds name body = body := by
  have hnone : (rounds.filter fun round => round.key = name) = [] := by
    simpa [List.filter_eq_nil_iff] using h
  rw [bodyAfter, hnone, List.foldl_nil]

/-- Changes are made in the order of the rounds. -/
theorem bodyAfter_append (first second : List Round) (name : String) (body : Body) :
    bodyAfter (first ++ second) name body =
      bodyAfter second name (bodyAfter first name body) := by
  simp [bodyAfter, List.filter_append, List.foldl_append]

theorem bodyAfter_cons (round : Round) (rounds : List Round) (name : String) (body : Body) :
    bodyAfter (round :: rounds) name body =
      bodyAfter rounds name (bodyAfter [round] name body) :=
  bodyAfter_append [round] rounds name body

/-- Where one round only has the key, its change is all that happens to the body. -/
theorem bodyAfter_of_single {before after : List Round} {round : Round} {key : String}
    (body : Body) (hround : round.key = key) (hbefore : ∀ other ∈ before, other.key ≠ key)
    (hafter : ∀ other ∈ after, other.key ≠ key) :
    bodyAfter (before ++ round :: after) key body = round.change body := by
  have hone : bodyAfter [round] key body = round.change body := by simp [bodyAfter, hround]
  rw [bodyAfter_append, bodyAfter_eq_self body hbefore, bodyAfter_cons, hone,
    bodyAfter_eq_self _ hafter]

namespace Graph

variable (graph : Graph)

/-- Carries out one round. -/
def attach (round : Round) : Graph :=
  (graph.linkAll round.edges).modifyBody round.key round.change

/-- Carries out several rounds, one after the other. -/
def attachAll (rounds : List Round) : Graph := rounds.foldl attach graph

theorem attachAll_append (first second : List Round) :
    graph.attachAll (first ++ second) = (graph.attachAll first).attachAll second :=
  List.foldl_append

/-- What one round leaves at a key. -/
theorem get?_attach (round : Round) (name : String) :
    (graph.attach round).get? name =
      (receive round.edges name (graph.get? name)).map fun node =>
        { node with body := bodyAfter [round] name node.body } := by
  rw [attach, get?_modifyBody, get?_linkAll]
  by_cases hname : round.key = name
  · simp [hname, bodyAfter]
  · have hother : ¬name = round.key := fun h => hname h.symm
    have hsame : ∀ body, bodyAfter [round] name body = body :=
      fun body => bodyAfter_eq_self body (by simpa using hname)
    simp [hother, hsame]

/-- **The closed form of the second half.**  Rounds at keys that have nodes leave at every key
its node, or a stub for the first edge to it, with the callers of all edges and the body after
all changes. -/
theorem get?_attachAll {rounds : List Round} (hkeys : ∀ round ∈ rounds, graph.contains round.key)
    (name : String) :
    (graph.attachAll rounds).get? name =
      (receive (rounds.flatMap Round.edges) name (graph.get? name)).map fun node =>
        { node with body := bodyAfter rounds name node.body } := by
  induction rounds generalizing graph with
  | nil => cases hnode : graph.get? name <;> simp [attachAll, receive_nil, bodyAfter, hnode]
  | cons round rounds ih =>
      -- A key that is there stays there, so the induction hypothesis applies after one round.
      have hstay : ∀ later ∈ rounds, (graph.attach round).contains later.key := by
        intro later hlater
        have hthere := hkeys later (List.mem_cons_of_mem _ hlater)
        rw [contains_eq_isSome, Option.isSome_iff_exists] at hthere
        obtain ⟨node, hnode⟩ := hthere
        simp [contains_eq_isSome, get?_attach, hnode, receive]
      have hsplit : graph.attachAll (round :: rounds) = (graph.attach round).attachAll rounds := rfl
      rw [hsplit, ih (graph.attach round) hstay, get?_attach, List.flatMap_cons, receive_append]
      cases hnode : receive round.edges name (graph.get? name) with
      | some node =>
          simp [receive, bodyAfter_cons round rounds]
      | none =>
          -- Nothing is there after the edges, so the key is of no round at all.
          have habsent : graph.contains name = false := by
            rw [← get?_eq_none_iff]
            cases hget : graph.get? name with
            | none => rfl
            | some node => simp [hget, receive] at hnode
          have hforeign : round.key ≠ name := by
            rintro rfl
            have hthere := hkeys round List.mem_cons_self
            rw [habsent] at hthere
            cases hthere
          have hsame : ∀ body, bodyAfter [round] name body = body :=
            fun body => bodyAfter_eq_self body (by simpa using hforeign)
          simp [bodyAfter_cons round rounds, hsame]

end Graph

end WorkflowGraph
