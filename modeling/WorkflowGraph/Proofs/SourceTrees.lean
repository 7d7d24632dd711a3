import WorkflowGraph.Analysis
import WorkflowGraph.Proofs.FileNames
import WorkflowGraph.Proofs.Runs
import WorkflowGraph.Proofs.WrittenFiles

/-!
# What an analysis reads of a tree

A walk lists all that stands below a directory, and most of it is thrown away: what is no file,
other files, test files, files that are no text or break the grammar.  What is left are the sources of the analysis,
in the order of the walk.

`FileTree.HasSource` says without any walk which files these are.  A walk meets every file of the
tree that is not below a skipped directory (`mem_entries_iff`), and it meets them in the order of
their places, which is the lexicographic order of the names that lead to them
(`pairwise_entries`).  So the list of the sources is determined by which files are sources, and
whatever stands between them leaves no trace (`sourceEntries_eq`).

In a directory a name occurs once, as in any file system.  The lists of children do not enforce it,
so `FileTree.NamesOnce` says it, and putting something into a tree keeps it (`namesOnce_put`).
-/

namespace WorkflowGraph

namespace FileTree

/-! ## Names -/

mutual

/-- No directory of the tree has a name twice. -/
def NamesOnce : FileTree → Prop
  | file _ => True
  | directory children => (children.map Prod.fst).Nodup ∧ AllNamesOnce children
  | special => True

/-- No directory among the children or below them has a name twice. -/
def AllNamesOnce : List (FileName × FileTree) → Prop
  | [] => True
  | (_, tree) :: children => tree.NamesOnce ∧ AllNamesOnce children

end

theorem allNamesOnce_iff {children : List (FileName × FileTree)} :
    AllNamesOnce children ↔ ∀ child ∈ children, child.2.NamesOnce := by
  induction children with
  | nil => simp [AllNamesOnce]
  | cons child children ih => rw [AllNamesOnce, ih, List.forall_mem_cons]

theorem namesOnce_file (content : ByteArray) : (file content).NamesOnce := trivial

theorem namesOnce_directory {children : List (FileName × FileTree)} :
    (directory children).NamesOnce ↔
      (children.map Prod.fst).Nodup ∧ ∀ child ∈ children, child.2.NamesOnce := by
  rw [NamesOnce, allNamesOnce_iff]

theorem namesOnce_children {tree : FileTree} (h : tree.NamesOnce) :
    (tree.children.map Prod.fst).Nodup ∧ ∀ child ∈ tree.children, child.2.NamesOnce := by
  cases tree with
  | directory children => exact namesOnce_directory.mp h
  | file content => simp [children]
  | special => simp [children]

/-- Where names occur once, looking a name up finds what stands under it. -/
theorem lookup_eq_some_iff {children : List (FileName × FileTree)}
    (h : (children.map Prod.fst).Nodup) {name : FileName} {tree : FileTree} :
    children.lookup name = some tree ↔ (name, tree) ∈ children := by
  induction children with
  | nil => simp
  | cons child children ih =>
      obtain ⟨first, below⟩ := child
      rw [List.map_cons, List.nodup_cons] at h
      rw [List.lookup_cons, List.mem_cons, Prod.mk.injEq]
      by_cases hname : name = first
      · subst hname
        have hfresh : name ∉ children.map Prod.fst := h.1
        have hother : (name, tree) ∉ children := fun hmem => hfresh (List.mem_map_of_mem hmem)
        simp [hother, eq_comm]
      · have hfalse : (name == first) = false := by simpa using hname
        simp [hfalse, hname, ih h.2]

section Put

variable {name : FileName} {value : FileTree} {children : List (FileName × FileTree)}

theorem mem_setChild {child : FileName × FileTree} (h : child ∈ setChild name value children) :
    child = (name, value) ∨ child ∈ children := by
  induction children with
  | nil => exact Or.inl (List.mem_singleton.mp h)
  | cons first children ih =>
      rw [setChild] at h
      split at h
      · rw [List.mem_cons] at h ⊢
        exact h.imp_right Or.inr
      · rw [List.mem_cons] at h ⊢
        rcases h with hfirst | hrest
        · exact Or.inr (Or.inl hfirst)
        · exact (ih hrest).imp_right Or.inr

theorem nodup_setChild (h : (children.map Prod.fst).Nodup) :
    ((setChild name value children).map Prod.fst).Nodup := by
  induction children with
  | nil => simp [setChild]
  | cons first children ih =>
      rw [List.map_cons, List.nodup_cons] at h
      rw [setChild]
      split
      · next hname => exact List.nodup_cons.mpr ⟨hname ▸ h.1, h.2⟩
      · next hname =>
          refine List.nodup_cons.mpr ⟨fun hmem => ?_, ih h.2⟩
          obtain ⟨child, hchild, hfst⟩ := List.mem_map.mp hmem
          rcases mem_setChild hchild with rfl | hold
          · exact hname hfst.symm
          · exact h.1 (hfst ▸ List.mem_map_of_mem hold)

/-- Putting something into a tree does not double a name. -/
theorem namesOnce_put (hvalue : value.NamesOnce) (names : List FileName) {tree : FileTree}
    (htree : tree.NamesOnce) : (put value names tree).NamesOnce := by
  induction names generalizing tree with
  | nil => exact hvalue
  | cons name names ih =>
      obtain ⟨hnodup, hall⟩ := namesOnce_children htree
      rw [put, namesOnce_directory]
      refine ⟨nodup_setChild hnodup, fun child hchild => ?_⟩
      rcases mem_setChild hchild with rfl | hold
      · refine ih ?_
        cases hchild : tree.child? name with
        | none => exact namesOnce_directory.mpr ⟨List.nodup_nil, by simp⟩
        | some inner => exact hall _ ((lookup_eq_some_iff hnodup).mp hchild)
      · exact hall child hold

end Put

/-! ## What a walk meets -/

/-- The children that a walk enters. -/
def entered (skip : FileName → Bool) (children : List (FileName × FileTree)) :
    List (FileName × FileTree) :=
  children.filter fun child => !(child.2.isDirectory && skip child.1)

theorem childEntries_eq (skip : FileName → Bool) (children : List (FileName × FileTree)) :
    childEntries skip children =
      (entered skip children).map fun child => (child.1, entries skip child.2) := by
  induction children with
  | nil => rfl
  | cons child children ih =>
      simp only [childEntries, ih, entered, List.filter_cons]
      cases child.2.isDirectory && skip child.1 <;> rfl

/-- The entries below a directory are those of the children that the walk enters. -/
theorem mem_entries_cons {skip : FileName → Bool} {children : List (FileName × FileTree)}
    {name : FileName} {names : List FileName} {content : Option ByteArray} :
    ⟨name :: names, content⟩ ∈ (directory children).entries skip ↔
      ∃ tree, (name, tree) ∈ children ∧ (tree.isDirectory && skip name) = false ∧
        ⟨names, content⟩ ∈ tree.entries skip := by
  have hmem : ∀ item, item ∈ byName (childEntries skip children) ↔
      ∃ child ∈ entered skip children, (child.1, child.2.entries skip) = item := by
    intro item
    rw [byName, List.mem_mergeSort, childEntries_eq, List.mem_map]
  rw [entries, List.mem_cons, List.mem_flatMap]
  constructor
  · rintro (hroot | ⟨item, hitem, hmapped⟩)
    · cases hroot
    · obtain ⟨child, hchild, rfl⟩ := (hmem item).mp hitem
      obtain ⟨below, hbelow, hentry⟩ := List.mem_map.mp hmapped
      obtain ⟨hold, hentered⟩ := List.mem_filter.mp hchild
      cases hentry
      exact ⟨child.2, hold, by rwa [Bool.not_eq_true'] at hentered, hbelow⟩
  · rintro ⟨tree, hchild, hentered, hbelow⟩
    refine Or.inr ⟨_, (hmem _).mpr ⟨(name, tree), List.mem_filter.mpr ⟨hchild, ?_⟩, rfl⟩, ?_⟩
    · rwa [Bool.not_eq_true']
    · exact List.mem_map.mpr ⟨⟨names, content⟩, hbelow, rfl⟩

/-- On the way to a file a walk enters the first child unless it is a skipped directory, and so
with all further names but the last. -/
theorem enters_iff {skip : FileName → Bool} {name : FileName} {names : List FileName}
    {tree : FileTree} {content : ByteArray} (h : tree.get? names = some (.file content)) :
    ((tree.isDirectory && skip name) = false ∧ ∀ other ∈ names.dropLast, skip other = false) ↔
      ∀ other ∈ (name :: names).dropLast, skip other = false := by
  cases names with
  | nil =>
      obtain rfl : tree = .file content := Option.some.inj h
      simp [isDirectory]
  | cons next names =>
      have hdirectory : tree.isDirectory = true := by
        cases tree with
        | file other => cases h
        | directory children => rfl
        | special => cases h
      rw [hdirectory, Bool.true_and, List.dropLast_cons_of_ne_nil (List.cons_ne_nil next names),
        List.forall_mem_cons]

/-- **A walk meets exactly the files that are not below a skipped directory.** -/
theorem mem_entries_iff {skip : FileName → Bool} {names : List FileName} {content : ByteArray}
    {tree : FileTree} (h : tree.NamesOnce) : ⟨names, some content⟩ ∈ tree.entries skip ↔
      tree.get? names = some (.file content) ∧ ∀ name ∈ names.dropLast, skip name = false := by
  induction names generalizing tree with
  | nil =>
      cases tree with
      | file other =>
          have hsame : content = other ↔ other = content := eq_comm
          simp [entries, get?, hsame]
      | directory children => simp [entries, get?]
      | special => simp [entries, get?]
  | cons name names ih =>
      cases tree with
      | file other => simp [entries, get?, child?, FileTree.children]
      | special => simp [entries, get?, child?, FileTree.children]
      | directory children =>
          obtain ⟨hnodup, hall⟩ := namesOnce_directory.mp h
          rw [mem_entries_cons, get?, child?_directory, Option.bind_eq_some_iff]
          constructor
          · rintro ⟨inner, hinner, hentered, hbelow⟩
            obtain ⟨hget, hrest⟩ := (ih (hall _ hinner)).mp hbelow
            exact ⟨⟨inner, (lookup_eq_some_iff hnodup).mpr hinner, hget⟩,
              (enters_iff hget).mp ⟨hentered, hrest⟩⟩
          · rintro ⟨⟨inner, hlookup, hget⟩, hskip⟩
            have hinner := (lookup_eq_some_iff hnodup).mp hlookup
            obtain ⟨hentered, hrest⟩ := (enters_iff hget).mpr hskip
            exact ⟨inner, hinner, hentered, (ih (hall _ hinner)).mpr ⟨hget, hrest⟩⟩

/-! ## The order of a walk -/

theorem pairwise_precedes_byName {α : Type} (items : List (FileName × α)) :
    (byName items).Pairwise fun a b => a.1.precedes b.1 = true := by
  have htrans : ∀ a b c : FileName × α, a.1.precedes b.1 = true → b.1.precedes c.1 = true →
      a.1.precedes c.1 = true := fun _ _ _ => FileName.precedes_trans
  have htotal : ∀ a b : FileName × α, (a.1.precedes b.1 || b.1.precedes a.1) = true :=
    fun a b => FileName.precedes_total a.1 b.1
  exact List.pairwise_mergeSort htrans htotal items

/-- The children of a directory in the order of the walk, by their names. -/
theorem pairwise_byName {skip : FileName → Bool} {children : List (FileName × FileTree)}
    (h : (children.map Prod.fst).Nodup) :
    (byName (childEntries skip children)).Pairwise fun a b => a.1 < b.1 := by
  have hsorted := pairwise_precedes_byName (childEntries skip children)
  have hdistinct : (byName (childEntries skip children)).Pairwise fun a b => a.1 ≠ b.1 := by
    have hperm := (List.mergeSort_perm (childEntries skip children)
      fun a b => a.1.precedes b.1).map Prod.fst
    have hnodup : ((childEntries skip children).map Prod.fst).Nodup := by
      rw [childEntries_eq, List.map_map]
      exact h.sublist (List.filter_sublist.map Prod.fst)
    exact List.pairwise_map.mp (hperm.nodup_iff.mpr hnodup)
  exact (hsorted.and hdistinct).imp fun hab => FileName.lt_of_precedes hab.1 hab.2

mutual

/-- **A walk goes by place.**  Entries come in the lexicographic order of the names that lead to
them. -/
theorem pairwise_entries (skip : FileName → Bool) : ∀ tree : FileTree, tree.NamesOnce →
    (tree.entries skip).Pairwise fun a b => a.names < b.names
  | file content, _ => List.pairwise_singleton _ _
  | special, _ => List.pairwise_singleton _ _
  | directory children, h => by
      obtain ⟨hnodup, hall⟩ := h
      rw [entries, List.pairwise_cons, List.pairwise_flatMap]
      refine ⟨?_, ?_, ?_⟩
      · intro entry hentry
        obtain ⟨item, _, hbelow⟩ := List.mem_flatMap.mp hentry
        obtain ⟨below, _, rfl⟩ := List.mem_map.mp hbelow
        exact List.Lex.nil
      · intro item hitem
        rw [List.pairwise_map]
        have hinner := pairwise_childEntries skip children hall item (List.mem_mergeSort.mp hitem)
        exact hinner.imp fun hlt => List.Lex.cons hlt
      · refine (pairwise_byName hnodup).imp fun {a b} hlt first hfirst second hsecond => ?_
        obtain ⟨_, _, rfl⟩ := List.mem_map.mp hfirst
        obtain ⟨_, _, rfl⟩ := List.mem_map.mp hsecond
        exact List.Lex.rel hlt

theorem pairwise_childEntries (skip : FileName → Bool) : ∀ children : List (FileName × FileTree),
    AllNamesOnce children → ∀ item ∈ childEntries skip children,
      item.2.Pairwise fun a b => a.names < b.names
  | [], _, item, hitem => by cases hitem
  | (name, tree) :: children, h, item, hitem => by
      rw [childEntries] at hitem
      split at hitem
      · exact pairwise_childEntries skip children h.2 item hitem
      · rcases List.mem_cons.mp hitem with rfl | hrest
        · exact pairwise_entries skip tree h.1
        · exact pairwise_childEntries skip children h.2 item hrest

end

end FileTree

/-! ## Sources -/

/-- The name of a source is a text, and everything else is asked of the text. -/
theorem isSourceName_iff {includeTests : Bool} {name : FileName} :
    isSourceName includeTests name = true ↔ ∃ text, name = .ofText text ∧
      Text.endsWith ".go" text = true ∧
      (includeTests = true ∨ Text.endsWith "_test.go" text = false) := by
  simp only [← FileName.text?_eq_some_iff]
  rw [isSourceName]
  cases name.text? <;> simp

/-- Only a name that is a text can be excluded. -/
theorem AnalysisSettings.excludes_iff {settings : AnalysisSettings} {name : FileName} :
    settings.excludes name = true ↔ ∃ text ∈ settings.excludeDirs, name = .ofText text := by
  simp only [← FileName.text?_eq_some_iff]
  rw [excludes]
  cases name.text? <;> simp

/-- No name on the way is excluded, seen from the names and from the settings. -/
theorem notExcluded_iff {settings : AnalysisSettings} {names : List FileName} :
    (∀ text ∈ settings.excludeDirs, FileName.ofText text ∉ names) ↔
      ∀ name ∈ names, settings.excludes name = false := by
  simp only [Bool.eq_false_iff, ne_eq, AnalysisSettings.excludes_iff]
  constructor
  · rintro h _ hname ⟨text, htext, rfl⟩
    exact h text htext hname
  · intro h text htext hname
    exact h _ hname ⟨text, htext, rfl⟩

namespace FileTree

/-- The bytes are a text that follows the grammar. -/
def Readable (content : ByteArray) : Prop :=
  ∃ text, Files.text? content = .ok text ∧ (Go.parse? text).isSome = true

theorem readable_toUTF8_iff (text : String) :
    Readable text.toUTF8 ↔ (Go.parse? text).isSome = true := by
  simp only [Readable, Files.text?_toUTF8, Except.ok.injEq, exists_eq_left']

/-- A file with these bytes at this place takes part in an analysis: its name is a text and that of
a Go file, and that of a test only if tests take part, no directory on the way is excluded, and its
bytes are a text that follows the grammar. -/
structure TakesPart (settings : AnalysisSettings) (names : List FileName) (content : ByteArray) :
    Prop where
  named : ∃ name, names.getLast? = some (.ofText name) ∧ Text.endsWith ".go" name = true ∧
    (settings.includeTests = true ∨ Text.endsWith "_test.go" name = false)
  notExcluded : ∀ name ∈ settings.excludeDirs, FileName.ofText name ∉ names.dropLast
  readable : Readable content

/-- The names lead to a file with these bytes, and it takes part. -/
structure HasSource (settings : AnalysisSettings) (tree : FileTree) (names : List FileName)
    (content : ByteArray) : Prop where
  isFile : tree.get? names = some (.file content)
  takesPart : TakesPart settings names content

end FileTree

/-- The source that an entry of a walk stands for. -/
def FileEntry.source? (settings : AnalysisSettings) (entry : FileEntry) : Option SourceFile :=
  (FoundFile.ofEntry? settings entry).bind fun found => found.parse.toOption

theorem SourceFile.isSome_ofText (path text : String) :
    (SourceFile.ofText path text).toOption.isSome = (Go.parse? text).isSome := by
  unfold SourceFile.ofText
  cases Go.parse? text <;> rfl

theorem FoundFile.isSome_parse_iff {found : FoundFile} :
    found.parse.toOption.isSome = true ↔ FileTree.Readable found.content := by
  unfold FoundFile.parse FileTree.Readable
  cases Files.text? found.content with
  | error fault => simp [Except.toOption]
  | ok text => simp only [SourceFile.isSome_ofText, Except.ok.injEq, exists_eq_left']

theorem FileEntry.isSome_source?_iff {settings : AnalysisSettings} {entry : FileEntry} :
    (entry.source? settings).isSome = true ↔ ∃ content name, entry.content = some content ∧
      entry.names.getLast? = some name ∧ isSourceName settings.includeTests name = true ∧
      FileTree.Readable content := by
  unfold FileEntry.source? FoundFile.ofEntry?
  rcases entry with ⟨names, _ | content⟩
  · simp
  · cases hlast : names.getLast? with
    | none => simp
    | some name =>
        by_cases hname : isSourceName settings.includeTests name = true
        · simp [hname, FoundFile.isSome_parse_iff]
        · simp [hname]

namespace FileTree

variable {settings : AnalysisSettings} {tree other : FileTree}

/-- The entries of a walk that stand for sources. -/
def sourceEntries (settings : AnalysisSettings) (tree : FileTree) : List FileEntry :=
  (tree.entries settings.excludes).filter fun entry =>
    (entry.source? settings).isSome

/-- They are the entries of the files that are sources. -/
theorem mem_sourceEntries_iff (h : tree.NamesOnce) {entry : FileEntry} :
    entry ∈ tree.sourceEntries settings ↔
      ∃ content, entry.content = some content ∧ tree.HasSource settings entry.names content := by
  rcases entry with ⟨names, content⟩
  rw [sourceEntries, List.mem_filter, FileEntry.isSome_source?_iff]
  constructor
  · rintro ⟨hmem, content, name, rfl, hlast, hname, hreadable⟩
    obtain ⟨hfile, hskip⟩ := (mem_entries_iff h).mp hmem
    obtain ⟨text, rfl, htext⟩ := isSourceName_iff.mp hname
    exact ⟨content, rfl, hfile, ⟨text, hlast, htext⟩, notExcluded_iff.mpr hskip, hreadable⟩
  · rintro ⟨content, rfl, hfile, ⟨⟨text, hlast, htext⟩, hfree, hreadable⟩⟩
    exact ⟨(mem_entries_iff h).mpr ⟨hfile, notExcluded_iff.mp hfree⟩, content, .ofText text, rfl,
      hlast, isSourceName_iff.mpr ⟨text, rfl, htext⟩, hreadable⟩

/-- **The sources of a tree and their order are determined by which files are sources.**  Both
lists go by place and have the same members. -/
theorem sourceEntries_eq (htree : tree.NamesOnce) (hother : other.NamesOnce)
    (hsame : ∀ names content,
      tree.HasSource settings names content ↔ other.HasSource settings names content) :
    tree.sourceEntries settings = other.sourceEntries settings := by
  have hsorted : ∀ tree : FileTree, tree.NamesOnce →
      (tree.sourceEntries settings).Pairwise fun a b => a.names < b.names := fun tree h =>
    (pairwise_entries _ tree h).filter _
  have hnodup : ∀ tree : FileTree, tree.NamesOnce → (tree.sourceEntries settings).Nodup := by
    intro tree h
    refine List.Pairwise.imp ?_ (hsorted tree h)
    intro a b hlt hab
    exact List.lt_irrefl a.names (hab ▸ hlt)
  have hmem : ∀ entry, entry ∈ tree.sourceEntries settings ↔
      entry ∈ other.sourceEntries settings := by
    intro entry
    rw [mem_sourceEntries_iff htree, mem_sourceEntries_iff hother]
    simp only [hsame]
  have hperm := (List.perm_ext_iff_of_nodup (hnodup tree htree) (hnodup other hother)).mpr hmem
  refine hperm.eq_of_pairwise (fun a b _ _ hab hba => ?_) (hsorted tree htree)
    (hsorted other hother)
  exact absurd hba (List.lt_asymm hab)

/-! ## Adding a file -/

/-- Where nothing has the name yet, an empty directory holds as many files below it: none. -/
theorem get?_getD_child?_eq_file_iff {name : FileName} {names : List FileName} {tree : FileTree}
    {content : ByteArray} :
    ((tree.child? name).getD (directory [])).get? names = some (.file content) ↔
      tree.get? (name :: names) = some (.file content) := by
  rw [get?]
  cases tree.child? name with
  | none => cases names <;> simp [get?]
  | some inner => simp

/-- No file stands on the way to the place. -/
def WayIsFree (tree : FileTree) (place : List FileName) : Prop :=
  ∀ names content, names <+: place → names ≠ place → tree.get? names ≠ some (.file content)

theorem wayIsFree_nil (tree : FileTree) : tree.WayIsFree [] :=
  fun _ _ hprefix hne => absurd (List.prefix_nil.mp hprefix) hne

/-- The way is free if it does not begin at a file and goes on to be free. -/
theorem wayIsFree_cons {name : FileName} {place : List FileName} {tree : FileTree} :
    tree.WayIsFree (name :: place) ↔ (∀ content, tree ≠ file content) ∧
      ((tree.child? name).getD (directory [])).WayIsFree place := by
  constructor
  · intro h
    refine ⟨fun content htree => h [] content List.nil_prefix (by simp) (by rw [get?, htree]), ?_⟩
    intro names content hprefix hne hget
    refine h (name :: names) content (List.cons_prefix_cons.mpr ⟨rfl, hprefix⟩) ?_
      (get?_getD_child?_eq_file_iff.mp hget)
    exact fun heq => hne (List.cons.inj heq).2
  · rintro ⟨hnofile, h⟩ names content hprefix hne hget
    cases names with
    | nil => exact hnofile content (Option.some.inj hget)
    | cons next names =>
        obtain ⟨rfl, hrest⟩ := List.cons_prefix_cons.mp hprefix
        refine h names content hrest ?_ (get?_getD_child?_eq_file_iff.mpr hget)
        exact fun heq => hne (heq ▸ rfl)

/-- What is put at a place changes no file at any other place. -/
theorem get?_put_eq_file_iff {value : FileTree} {place names : List FileName} {tree : FileTree}
    {content : ByteArray} (hway : tree.WayIsFree place) (hnames : ¬place <+: names) :
    (put value place tree).get? names = some (.file content) ↔
      tree.get? names = some (.file content) := by
  induction place generalizing tree names with
  | nil => exact absurd (List.nil_prefix) hnames
  | cons name place ih =>
      obtain ⟨hnofile, hbelow⟩ := wayIsFree_cons.mp hway
      cases names with
      | nil => simp [put, get?, hnofile]
      | cons next names =>
          rw [get?, get?, child?_put]
          by_cases hnext : next = name
          · subst hnext
            have hrest : ¬place <+: names := fun hprefix =>
              hnames (List.cons_prefix_cons.mpr ⟨rfl, hprefix⟩)
            rw [if_pos rfl, Option.bind_some, ih hbelow hrest]
            exact get?_getD_child?_eq_file_iff
          · rw [if_neg hnext]

/-- **A file that does not take part can be added anywhere** without a change of the sources. -/
theorem hasSource_put_iff {place : List FileName} {content : ByteArray}
    (hfree : tree.get? place = none) (hway : tree.WayIsFree place)
    (hnot : ¬TakesPart settings place content) (names : List FileName) (bytes : ByteArray) :
    (put (.file content) place tree).HasSource settings names bytes ↔
      tree.HasSource settings names bytes := by
  by_cases hplace : place <+: names
  · obtain ⟨rest, rfl⟩ := hplace
    constructor
    · rintro ⟨hfile, htakes⟩
      rw [get?_append, get?_put_self, Option.bind_some] at hfile
      cases rest with
      | nil =>
          obtain rfl : content = bytes := file.inj (Option.some.inj hfile)
          rw [List.append_nil] at htakes
          exact absurd htakes hnot
      | cons name rest => cases hfile
    · rintro ⟨hfile, _⟩
      rw [get?_append, hfree] at hfile
      cases hfile
  · constructor
    · rintro ⟨hfile, htakes⟩
      exact ⟨(get?_put_eq_file_iff hway hplace).mp hfile, htakes⟩
    · rintro ⟨hfile, htakes⟩
      exact ⟨(get?_put_eq_file_iff hway hplace).mpr hfile, htakes⟩

end FileTree

/-! ## The sources of an analysis -/

/-- The sources of an analysis: the files that take part and follow the grammar. -/
def sourcesOf (files : Files) (settings : AnalysisSettings) : List SourceFile :=
  match sourceTree files settings.rootDir with
  | .error _ => []
  | .ok tree =>
    ((tree.entries settings.excludes).filterMap (FoundFile.ofEntry? settings)).filterMap
      fun found => found.parse.toOption

theorem parseFiles_computes (found : List FoundFile) :
    (parseFiles found).Computes (found.filterMap fun file => file.parse.toOption) := by
  rw [List.filterMap_eq_flatMap_toList, ← List.nil_append (List.flatMap _ _)]
  refine Run.computes_collect (fun sources file => ?_) found []
  refine Run.Computes.after_poll ?_
  cases file.parse with
  | ok source => exact Run.computes_pure _
  | error failure =>
      rw [Except.toOption, Option.toList_none, List.append_nil]
      exact (Run.computes_pure _).after_say

/-- What is parsed of the files that are found are the sources. -/
theorem discover_ensures_sourcesOf (files : Files) (settings : AnalysisSettings) :
    (discover files settings).Ensures fun found =>
      (found.filterMap fun file => file.parse.toOption) = sourcesOf files settings := by
  unfold discover
  refine (Run.ensures_ofExcept _).bind fun tree htree => ?_
  refine Run.ensures_bind fun _ => Run.ensures_bind fun _ => Run.ensures_pure ?_
  rw [sourcesOf, htree]

theorem sourcesOf_eq_filterMap {files : Files} {settings : AnalysisSettings} {tree : FileTree}
    (h : sourceTree files settings.rootDir = .ok tree) :
    sourcesOf files settings =
      (tree.sourceEntries settings).filterMap (FileEntry.source? settings) := by
  have hkept : ∀ entries : List FileEntry,
      (entries.filter fun entry => (entry.source? settings).isSome).filterMap
        (FileEntry.source? settings) = entries.filterMap (FileEntry.source? settings) := by
    intro entries
    rw [List.filterMap_filter]
    congr 1
    funext entry
    cases entry.source? settings <;> rfl
  rw [sourcesOf, h, FileTree.sourceEntries, hkept]
  exact List.filterMap_filterMap

end WorkflowGraph
