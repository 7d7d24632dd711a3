import Mathlib.Data.List.Nodup
import Mathlib.Data.List.TakeDrop
import Mathlib.Data.List.TakeWhile
import WorkflowGraph.Proofs.Edges

/-!
# What a name stands for

While a graph is built, names are looked up in a graph that grows: a name that stands for nothing
gets a stub, and from then on it is a key like any other.  Still the answer to a look-up is
settled from the start.  `reading` gives it from the declared keys alone: the name itself, the
one key that shares its last part, several such keys, or nothing.

The reason is that only a name without any reading ever becomes a new key.  A graph that has
grown in this way is `Grown`, every link keeps it so, and `Grown.lookup_eq` says that it answers
as the declared keys do, except that a name without a reading may be there by now.
-/

namespace WorkflowGraph

namespace Text

/-- A cut at the first mark takes the text apart there. -/
theorem cutFirst_eq_some_iff {mark : Char} {text before after : List Char} :
    cutFirst mark text = some (before, after) ↔
      text = before ++ mark :: after ∧ mark ∉ before := by
  unfold cutFirst
  rw [List.span_eq_takeWhile_dropWhile]
  constructor
  · intro h
    split at h
    · cases h
    · next found first rest hsplit =>
        obtain ⟨hbefore, hafter⟩ := Prod.mk.inj hsplit
        obtain ⟨rfl, rfl⟩ := Prod.mk.inj (Option.some.inj h)
        have hmark : first = mark := by
          have hhead := List.head_dropWhile_not (· != mark) (l := text) (by rw [hafter]; simp)
          simpa [hafter] using hhead
        have hjoin : text = found ++ first :: rest := by
          rw [← hbefore, ← hafter, List.takeWhile_append_dropWhile]
        refine ⟨by rw [hjoin, hmark], ?_⟩
        intro hmem
        rw [← hbefore] at hmem
        simpa using List.mem_takeWhile_imp hmem
  · rintro ⟨rfl, hfree⟩
    have hall : ∀ c ∈ before, (c != mark) = true := by
      intro c hc
      have hne : c ≠ mark := fun h => hfree (h ▸ hc)
      simpa using hne
    simp [List.takeWhile_append_of_pos hall, List.dropWhile_append_of_pos hall]

/-- A cut at the last mark takes the text apart there. -/
theorem cutLast_eq_some_iff {mark : Char} {text before after : List Char} :
    cutLast mark text = some (before, after) ↔
      text = before ++ mark :: after ∧ mark ∉ after := by
  have hreverse : cutLast mark text = some (before, after) ↔
      cutFirst mark text.reverse = some (after.reverse, before.reverse) := by
    unfold cutLast
    rw [Option.map_eq_some_iff]
    constructor
    · rintro ⟨⟨a, b⟩, hcut, heq⟩
      obtain ⟨rfl, rfl⟩ := Prod.mk.inj heq
      simpa using hcut
    · intro hcut
      exact ⟨_, hcut, by simp⟩
  rw [hreverse, cutFirst_eq_some_iff, List.mem_reverse, List.reverse_eq_iff]
  simp

theorem endsWith_iff {ending text : String} :
    endsWith ending text = true ↔ ∃ before, text = before ++ ending := by
  rw [endsWith, List.isSuffixOf_iff_suffix]
  constructor
  · rintro ⟨before, hjoin⟩
    refine ⟨String.ofList before, ?_⟩
    rw [← String.toList_inj, String.toList_append, String.toList_ofList, hjoin]
  · rintro ⟨before, rfl⟩
    exact ⟨before.toList, by rw [String.toList_append]⟩

end Text

/-- The part is what stands after the last point of the name, and it is not empty. -/
def IsLastPart (part name : String) : Prop :=
  part ≠ "" ∧ '.' ∉ part.toList ∧ ∃ before, name = before ++ "." ++ part

/-- The key is the last part of the name, or ends with it after a point. -/
def SharesLastPart (name key : String) : Prop :=
  ∃ part, IsLastPart part name ∧ (key = part ∨ ∃ before, key = before ++ "." ++ part)

theorem lastPart?_eq_some_iff {name part : String} :
    lastPart? name = some part ↔ IsLastPart part name := by
  have hdotted : (∃ before, name = before ++ "." ++ part) ↔
      ∃ before, name.toList = before ++ '.' :: part.toList := by
    constructor
    · rintro ⟨before, rfl⟩
      exact ⟨before.toList, by simp⟩
    · rintro ⟨before, hjoin⟩
      exact ⟨String.ofList before, by rw [← String.toList_inj, hjoin]; simp⟩
  unfold lastPart? IsLastPart
  rw [hdotted]
  constructor
  · intro h
    split at h
    · cases h
    · next before after hne hcut =>
        obtain rfl := Option.some.inj h
        obtain ⟨hjoin, hfree⟩ := Text.cutLast_eq_some_iff.mp hcut
        refine ⟨?_, by simpa using hfree, before, by simpa using hjoin⟩
        intro hempty
        exact hne (by simpa using congrArg String.toList hempty)
    · cases h
  · rintro ⟨hne, hfree, before, hjoin⟩
    have hcut : Text.cutLast '.' name.toList = some (before, part.toList) :=
      Text.cutLast_eq_some_iff.mpr ⟨hjoin, hfree⟩
    have hchars : part.toList ≠ [] := by
      intro hnil
      exact hne (String.toList_inj.mp (by rw [hnil]; rfl))
    rw [hcut]
    split
    · next heq => exact absurd (Prod.mk.inj (Option.some.inj heq)).2 hchars
    · next heq =>
        obtain ⟨rfl, rfl⟩ := Prod.mk.inj (Option.some.inj heq)
        rw [String.ofList_toList]
    · next heq => cases heq

theorem hasLastPart_iff {part key : String} :
    hasLastPart part key = true ↔ key = part ∨ ∃ before, key = before ++ "." ++ part := by
  rw [hasLastPart, Bool.or_eq_true, Text.endsWith_iff, beq_iff_eq, or_comm]
  simp only [String.append_assoc]

/-- The declared keys that share the last part of a name. -/
def candidates (declared : List String) (name : String) : List String :=
  match lastPart? name with
  | none => []
  | some part => declared.filter (hasLastPart part)

theorem mem_candidates {declared : List String} {name key : String} :
    key ∈ candidates declared name ↔ key ∈ declared ∧ SharesLastPart name key := by
  unfold candidates SharesLastPart
  split
  · next hnone =>
      have hno : ∀ part, ¬IsLastPart part name := by
        intro part hpart
        rw [← lastPart?_eq_some_iff, hnone] at hpart
        cases hpart
      simp [hno]
  · next part hsome =>
      have hpart : ∀ other, IsLastPart other name ↔ part = other := by
        intro other
        rw [← lastPart?_eq_some_iff, hsome, Option.some.injEq]
      simp only [List.mem_filter, hasLastPart_iff, hpart, exists_eq_left']

theorem nodup_candidates {declared : List String} (name : String) (h : declared.Nodup) :
    (candidates declared name).Nodup := by
  unfold candidates
  split
  · exact List.nodup_nil
  · exact h.filter _

/-- What a name stands for if it can be any of the keys. -/
def Lookup.ofCandidates : List String → Lookup
  | [] => .missing
  | [key] => .found .suffix key
  | several => .ambiguous several.length

/-- What a name stands for among the declared keys. -/
def reading (declared : List String) (name : String) : Lookup :=
  if name ∈ declared then .found .exact name else .ofCandidates (candidates declared name)

/-- A look-up asks the graph for the name itself and the declared keys for all else. -/
theorem Graph.lookup_eq (graph : Graph) (declared : List String) (name : String) :
    graph.lookup declared name =
      if graph.contains name then .found .exact name
      else .ofCandidates (candidates declared name) := by
  unfold Graph.lookup
  by_cases hthere : graph.contains name = true
  · rw [if_pos hthere, if_pos hthere]
  · rw [if_neg hthere, if_neg hthere, candidates]
    cases lastPart? name <;> rfl

section Reading

variable {declared : List String} {name key : String}

theorem reading_of_mem (h : name ∈ declared) : reading declared name = .found .exact name :=
  if_pos h

/-- One key with the last part of the name is what the name stands for. -/
theorem reading_of_single (hnodup : declared.Nodup) (hnot : name ∉ declared)
    (hkey : key ∈ declared ∧ SharesLastPart name key)
    (honly : ∀ other, other ∈ declared → SharesLastPart name other → other = key) :
    reading declared name = .found .suffix key := by
  have hsingle : candidates declared name = [key] := by
    rw [← List.perm_singleton,
      List.perm_ext_iff_of_nodup (nodup_candidates name hnodup) (List.nodup_singleton key)]
    intro other
    rw [mem_candidates, List.mem_singleton]
    constructor
    · rintro ⟨hmem, hshare⟩
      exact honly other hmem hshare
    · rintro rfl
      exact hkey
  rw [reading, if_neg hnot, hsingle, Lookup.ofCandidates]

/-- Two keys with the last part of the name leave it open. -/
theorem reading_of_several {other : String} (hnot : name ∉ declared)
    (hkey : key ∈ declared ∧ SharesLastPart name key)
    (hother : other ∈ declared ∧ SharesLastPart name other) (hne : key ≠ other) :
    ∃ count, reading declared name = .ambiguous count := by
  rw [← mem_candidates] at hkey hother
  rw [reading, if_neg hnot]
  match hfound : candidates declared name with
  | [] => simp [hfound] at hkey
  | [only] =>
      rw [hfound, List.mem_singleton] at hkey hother
      exact absurd (hkey.trans hother.symm) hne
  | first :: second :: rest => exact ⟨_, rfl⟩

/-- No key with the last part of the name, and it stands for nothing. -/
theorem reading_of_none (hnot : name ∉ declared)
    (hnone : ∀ key, key ∈ declared → ¬SharesLastPart name key) :
    reading declared name = .missing := by
  have hempty : candidates declared name = [] := by
    rw [List.eq_nil_iff_forall_not_mem]
    intro key hkey
    obtain ⟨hmem, hshare⟩ := mem_candidates.mp hkey
    exact hnone key hmem hshare
  rw [reading, if_neg hnot, hempty, Lookup.ofCandidates]

/-- A reading that finds a key finds a declared one. -/
theorem mem_of_reading_found {resolution : Resolution}
    (h : reading declared name = .found resolution key) : key ∈ declared := by
  unfold reading at h
  split at h
  · next hmem =>
      obtain ⟨_, rfl⟩ := Lookup.found.inj h
      exact hmem
  · match hfound : candidates declared name with
    | [] => simp [hfound, Lookup.ofCandidates] at h
    | [only] =>
        rw [hfound] at h
        obtain ⟨_, rfl⟩ := Lookup.found.inj h
        have hmem : only ∈ candidates declared name := by simp [hfound]
        exact (mem_candidates.mp hmem).1
    | first :: second :: rest => simp [hfound, Lookup.ofCandidates] at h

/-- A reading that finds a key finds it exactly or by its last part. -/
theorem resolution_of_reading_found {resolution : Resolution}
    (h : reading declared name = .found resolution key) :
    resolution = .exact ∨ resolution = .suffix := by
  unfold reading at h
  split at h
  · exact Or.inl (Lookup.found.inj h).1.symm
  · match hfound : candidates declared name with
    | [] => simp [hfound, Lookup.ofCandidates] at h
    | [only] =>
        rw [hfound] at h
        exact Or.inr (Lookup.found.inj h).1.symm
    | first :: second :: rest => simp [hfound, Lookup.ofCandidates] at h

/-- A name that is not read as itself is not declared. -/
theorem not_mem_of_reading_ne (h : reading declared name ≠ .found .exact name) :
    name ∉ declared :=
  fun hmem => h (reading_of_mem hmem)

end Reading

/-- A graph that has grown from the declared nodes by edges, none of which leads to a name that
has a reading of its own. -/
structure Grown (declared : List String) (edges : List Edge) (graph : Graph) : Prop where
  contains_iff : ∀ name, graph.contains name = true ↔
    name ∈ declared ∨ ∃ edge ∈ edges, edge.target = name
  lawful : ∀ edge ∈ edges, edge.target ∈ declared ∨ reading declared edge.target = .missing

namespace Grown

variable {declared : List String} {edges : List Edge} {graph : Graph}

/-- **Growth changes no answer.**  A grown graph reads a name as the declared keys do; only a
name that stands for nothing may have become a key. -/
theorem lookup_eq (h : Grown declared edges graph) (name : String) :
    graph.lookup declared name =
      match reading declared name with
      | .missing =>
        if ∃ edge ∈ edges, edge.target = name then .found .exact name else .missing
      | settled => settled := by
  rw [graph.lookup_eq]
  by_cases hdeclared : name ∈ declared
  · have hthere : graph.contains name = true := (h.contains_iff name).mpr (Or.inl hdeclared)
    rw [if_pos hthere, reading_of_mem hdeclared]
  · have hreading : reading declared name = .ofCandidates (candidates declared name) :=
      if_neg hdeclared
    by_cases hedge : ∃ edge ∈ edges, edge.target = name
    · have hthere : graph.contains name = true := (h.contains_iff name).mpr (Or.inr hedge)
      have hmissing : reading declared name = .missing := by
        obtain ⟨edge, hmem, rfl⟩ := hedge
        exact (h.lawful edge hmem).resolve_left hdeclared
      rw [if_pos hthere, hmissing]
      exact (if_pos hedge).symm
    · have habsent : ¬graph.contains name = true := by
        rw [h.contains_iff name]
        exact fun hor => hor.elim hdeclared hedge
      rw [if_neg habsent, ← hreading]
      cases reading declared name with
      | found resolution key => rfl
      | ambiguous count => rfl
      | missing => exact (if_neg hedge).symm

/-- An edge to a declared key or to a name that stands for nothing keeps a graph grown. -/
theorem link (h : Grown declared edges graph) (edge : Edge)
    (hedge : edge.target ∈ declared ∨ reading declared edge.target = .missing) :
    Grown declared (edges ++ [edge]) (graph.link edge) where
  contains_iff name := by
    have hbefore := h.contains_iff name
    rw [Graph.contains_eq_isSome] at hbefore
    rw [Graph.contains_eq_isSome, Graph.get?_link]
    have hlinked : (receive [edge] name (graph.get? name)).isSome = true ↔
        (graph.get? name).isSome = true ∨ edge.target = name := by
      cases graph.get? name with
      | some node => simp [receive]
      | none => by_cases hname : edge.target = name <;> simp [receive, hname]
    rw [hlinked, hbefore, or_assoc]
    simp [or_and_right, exists_or]
  lawful other hother := by
    rcases List.mem_append.mp hother with hold | hnew
    · exact h.lawful other hold
    · obtain rfl := List.mem_singleton.mp hnew
      exact hedge

theorem linkAll (h : Grown declared edges graph) (more : List Edge)
    (hmore : ∀ edge ∈ more, edge.target ∈ declared ∨ reading declared edge.target = .missing) :
    Grown declared (edges ++ more) (graph.linkAll more) := by
  induction more generalizing edges graph with
  | nil => simpa [Graph.linkAll] using h
  | cons edge more ih =>
      have hone := h.link edge (hmore edge List.mem_cons_self)
      have hall := ih hone fun later hlater => hmore later (List.mem_cons_of_mem _ hlater)
      simpa [Graph.linkAll, List.append_assoc] using hall

/-- A change of a body touches no key. -/
theorem modifyBody (h : Grown declared edges graph) (key : String) (change : Body → Body) :
    Grown declared edges (graph.modifyBody key change) where
  contains_iff name := by
    have hsame : (graph.modifyBody key change).contains name = graph.contains name := by
      simp [Graph.contains, Graph.modifyBody, Table.contains]
    rw [hsame]
    exact h.contains_iff name
  lawful := h.lawful

end Grown

end WorkflowGraph
