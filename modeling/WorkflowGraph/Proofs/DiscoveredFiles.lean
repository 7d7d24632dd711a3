import WorkflowGraph.Proofs.IrrelevantFiles

/-!
# The files that a discovery finds

A discovery walks through the tree below its root and keeps the files that have the name of a Go
file.  Which entries the walk meets is said by `FileTree.mem_entries_iff`, and that it meets them in
the order of their places by `FileTree.pairwise_entries`.  What a discovery shows of a file, though,
is a path.

A path is made from the root by joining names, and the root may be written in many ways, with dots
and slashes in it and at its end.  `Path.stem` is the list of the parts to which names are added, and
every name adds one part, itself (`stem_entryPath`).  So two places never have one path, and the
path of a place leads to what stands there (`Files.lookup_entryPath`), as long as the names are texts.

A name can be any bytes, and whether it ends in `.go` is said of the bytes.  A discovery reads names
as texts, though, and passes over a file whose name is not UTF-8 without a word
(`depot_misses_latin_name`).  A directory with such a name it walks through, whatever is excluded.

Main statement: `discovery_is_exact`.
-/

namespace WorkflowGraph

/-! ## Joined paths -/

namespace Path

/-- A text that can be the name of something in a directory. -/
structure IsName (text : String) : Prop where
  nonempty : text ≠ ""
  noSlash : '/' ∉ text.toList
  notDot : text ≠ "."
  notDots : text ≠ ".."

instance (text : String) : Decidable (IsName text) :=
  decidable_of_iff (text ≠ "" ∧ '/' ∉ text.toList ∧ text ≠ "." ∧ text ≠ "..")
    ⟨fun ⟨hempty, hslash, hdot, hdots⟩ => ⟨hempty, hslash, hdot, hdots⟩,
      fun h => ⟨h.nonempty, h.noSlash, h.notDot, h.notDots⟩⟩

/-- A slash cuts whatever is written around it. -/
theorem split_append_slash (front back : List Char) :
    split (front ++ '/' :: back) = split front ++ split back := by
  induction front with
  | nil => rfl
  | cons c front ih =>
      obtain ⟨part, parts, hsplit⟩ := List.exists_cons_of_ne_nil (split_ne_nil front)
      rw [List.cons_append, split, split, ih, hsplit]
      split <;> rfl

theorem split_of_noSlash {text : List Char} (h : '/' ∉ text) : split text = [text] := by
  induction text with
  | nil => rfl
  | cons c text ih =>
      rw [List.mem_cons, not_or] at h
      rw [split, if_neg (Ne.symm h.1), ih h.2]

theorem parts_append_slash (front back : String) :
    parts (front ++ "/" ++ back) = parts front ++ parts back := by
  have htext : (front ++ "/" ++ back).toList = front.toList ++ '/' :: back.toList := by simp
  rw [parts, htext, split_append_slash, List.map_append]
  rfl

/-- A slash at the end leaves an empty part after it. -/
theorem parts_slash (front : String) : parts (front ++ "/") = parts front ++ [""] := by
  have hparts := parts_append_slash front ""
  rwa [String.append_empty] at hparts

/-- The parts of a path to which names are added: a slash at the end begins no part. -/
def stem (path : String) : List String :=
  if Text.endsWith "/" path then (parts path).dropLast else parts path

/-- The empty part after a slash at the end is no part of the stem. -/
theorem stem_append_slash (front : String) : stem (front ++ "/") = parts front := by
  have hend : Text.endsWith "/" (front ++ "/") = true := Text.endsWith_iff.mpr ⟨front, rfl⟩
  rw [stem, if_pos hend, parts_slash, List.dropLast_concat]

theorem isAbsolute_iff {path : String} :
    isAbsolute path = true ↔ path.toList.head? = some '/' := by
  rw [isAbsolute, Text.startsWith]
  cases path.toList with
  | nil => simp
  | cons c rest => simpa [List.isPrefixOf] using eq_comm

variable {base name : String}

/-- A name is one part. -/
theorem IsName.parts_eq (hname : IsName name) : parts name = [name] := by
  rw [parts, split_of_noSlash hname.noSlash, List.map_singleton, String.ofList_toList]

theorem IsName.not_isAbsolute (hname : IsName name) : isAbsolute name = false := by
  rw [Bool.eq_false_iff]
  intro hstart
  exact hname.noSlash (List.mem_of_head? (isAbsolute_iff.mp hstart))

theorem IsName.not_isIdle (hname : IsName name) : isIdle name = false := by
  simp [isIdle, hname.nonempty, hname.notDot]

/-- The last part of a path with a name at its end is the name, so there is no slash after it. -/
theorem IsName.endsWith_slash_append (hname : IsName name) (front : String) :
    Text.endsWith "/" (front ++ name) = false := by
  rw [Bool.eq_false_iff]
  intro hend
  obtain ⟨before, hbefore⟩ := Text.endsWith_iff.mp hend
  have hlast := congrArg (fun text : String => text.toList.getLast?) hbefore
  have hnil : name.toList ≠ [] := by simpa using hname.nonempty
  simp only [String.toList_append, List.getLast?_append_of_ne_nil _ hnil] at hlast
  exact hname.noSlash (List.mem_of_getLast? (hlast.trans (by simp)))

/-- A path and a name are joined by a slash, a new one or the one at the end of the path. -/
theorem join_cases (hbase : base ≠ "") (hname : IsName name) :
    (∃ front, base = front ++ "/" ∧ join base name = front ++ "/" ++ name) ∨
      Text.endsWith "/" base = false ∧ join base name = base ++ "/" ++ name := by
  have hempty : base.isEmpty = false := by simpa using hbase
  rw [join, hname.not_isAbsolute, hempty]
  cases hend : Text.endsWith "/" base with
  | false => exact Or.inr ⟨rfl, rfl⟩
  | true =>
      obtain ⟨front, rfl⟩ := Text.endsWith_iff.mp hend
      exact Or.inl ⟨front, rfl, rfl⟩

/-- A name adds one part, itself. -/
theorem parts_join (hbase : base ≠ "") (hname : IsName name) :
    parts (join base name) = stem base ++ [name] := by
  rcases join_cases hbase hname with ⟨front, rfl, hjoin⟩ | ⟨hend, hjoin⟩
  · rw [hjoin, parts_append_slash, stem_append_slash, hname.parts_eq]
  · rw [hjoin, parts_append_slash, hname.parts_eq, stem, hend]
    rfl

/-- The stem of a joined path is all of its parts, since no name ends in a slash. -/
theorem stem_join (hbase : base ≠ "") (hname : IsName name) :
    stem (join base name) = stem base ++ [name] := by
  have hend : Text.endsWith "/" (join base name) = false := by
    rcases join_cases hbase hname with ⟨front, rfl, hjoin⟩ | ⟨_, hjoin⟩ <;>
      exact hjoin ▸ hname.endsWith_slash_append _
  rw [← parts_join hbase hname, stem, hend]
  rfl

/-- A path that is not empty starts where it started, whatever is written after it. -/
theorem isAbsolute_append (hbase : base ≠ "") (after : String) :
    isAbsolute (base ++ after) = isAbsolute base := by
  have hnil : base.toList ≠ [] := by simpa using hbase
  rw [Bool.eq_iff_iff, isAbsolute_iff, isAbsolute_iff, String.toList_append,
    List.head?_append_of_ne_nil _ hnil]

/-- Joining writes something after the path and changes nothing before. -/
theorem exists_join_eq_append (hbase : base ≠ "") (hname : IsName name) :
    ∃ after, join base name = base ++ after := by
  rcases join_cases hbase hname with ⟨front, rfl, hjoin⟩ | ⟨_, hjoin⟩
  · exact ⟨name, hjoin⟩
  · exact ⟨"/" ++ name, by rw [hjoin, String.append_assoc]⟩

theorem join_ne_empty (hbase : base ≠ "") (hname : IsName name) : join base name ≠ "" := by
  obtain ⟨after, hafter⟩ := exists_join_eq_append hbase hname
  rw [hafter]
  simp [hbase]

theorem isAbsolute_join (hbase : base ≠ "") (hname : IsName name) :
    isAbsolute (join base name) = isAbsolute base := by
  obtain ⟨after, hafter⟩ := exists_join_eq_append hbase hname
  rw [hafter, isAbsolute_append hbase]

end Path

/-! ## Where the path of an entry leads -/

/-- The name can be written as a part of a path. -/
def FileName.IsPart (name : FileName) : Prop := ∃ text, name = ofText text ∧ Path.IsName text

section EntryPath

variable {root : String} {names : List FileName}

/-- Every name on the way to an entry adds a part to its path. -/
theorem stem_entryPath (hroot : root ≠ "") (hnames : ∀ name ∈ names, name.IsPart) :
    Path.stem (entryPath root names) = Path.stem root ++ names.map FileName.shown := by
  induction names generalizing root with
  | nil => exact (List.append_nil _).symm
  | cons name names ih =>
      obtain ⟨⟨text, rfl, htext⟩, hrest⟩ := List.forall_mem_cons.mp hnames
      rw [List.map_cons, FileName.shown_ofText]
      calc Path.stem (entryPath root (.ofText text :: names))
          = Path.stem (entryPath (Path.join root text) names) := by
            rw [entryPath, List.foldl_cons, FileName.shown_ofText, entryPath]
        _ = Path.stem (Path.join root text) ++ names.map FileName.shown :=
            ih (Path.join_ne_empty hroot htext) hrest
        _ = Path.stem root ++ text :: names.map FileName.shown := by
            rw [Path.stem_join hroot htext, List.append_assoc, List.singleton_append]

/-- Names that are texts are told apart by what is shown of them. -/
theorem eq_of_map_shown_eq {others : List FileName} (hnames : ∀ name ∈ names, name.IsPart)
    (hothers : ∀ name ∈ others, name.IsPart)
    (h : names.map FileName.shown = others.map FileName.shown) : names = others := by
  have hback : ∀ names : List FileName, (∀ name ∈ names, name.IsPart) →
      (names.map FileName.shown).map FileName.ofText = names := by
    intro names hnames
    rw [List.map_map]
    refine (List.map_congr_left fun name hname => ?_).trans (List.map_id names)
    obtain ⟨text, rfl, _⟩ := hnames name hname
    exact congrArg FileName.ofText (FileName.shown_ofText text)
  rw [← hback names hnames, h, hback others hothers]

/-- Two places never have one path. -/
theorem entryPath_injective (hroot : root ≠ "") {others : List FileName}
    (hnames : ∀ name ∈ names, name.IsPart) (hothers : ∀ name ∈ others, name.IsPart)
    (h : entryPath root names = entryPath root others) : names = others := by
  have hstems := stem_entryPath hroot hnames
  rw [h, stem_entryPath hroot hothers] at hstems
  exact eq_of_map_shown_eq hnames hothers (List.append_cancel_left hstems).symm

end EntryPath

namespace Files

variable {files : Files}

/-- A path has a place if it is not empty and its parts can be followed. -/
theorem locate_eq_ok_iff {path : String} {place : List FileName} :
    files.locate path = .ok place ↔
      path ≠ "" ∧ files.follow (files.start path) (Path.parts path) = .ok place := by
  rw [locate]
  split <;> simp_all

/-- A path leads to what is found at its place. -/
theorem lookup_eq_ok_iff {path : String} {tree : FileTree} :
    files.lookup path = .ok tree ↔
      ∃ place, files.locate path = .ok place ∧ files.root.get? place = some tree := by
  rw [lookup]
  cases files.locate path with
  | error fault => simp
  | ok place => cases hget : files.root.get? place <;> simp [hget]

/-- Parts are followed from where the parts before them have led. -/
theorem follow_append_eq_ok_iff {first second : List String} {place last : List FileName} :
    files.follow place (first ++ second) = .ok last ↔
      ∃ middle, files.follow place first = .ok middle ∧ files.follow middle second = .ok last := by
  induction first generalizing place with
  | nil => simp [follow]
  | cons part first ih =>
      rw [List.cons_append, follow, follow]
      cases files.step place part with
      | error fault => simp
      | ok next => exact ih

/-- An empty part leads nowhere. -/
theorem follow_empty {place last : List FileName} (h : files.follow place [""] = .ok last) :
    last = place := by
  rw [follow, step] at h
  split at h
  · cases h
  · next next hstep =>
      obtain rfl : next = last := Except.ok.inj h
      split at hstep
      · exact (Except.ok.inj hstep).symm
      · cases hstep
      · cases hstep

/-- The stem of a path leads where the path leads. -/
theorem follow_stem {path : String} {place last : List FileName}
    (h : files.follow place (Path.parts path) = .ok last) :
    files.follow place (Path.stem path) = .ok last := by
  cases hend : Text.endsWith "/" path with
  | false => rwa [Path.stem, hend]
  | true =>
      obtain ⟨front, rfl⟩ := Text.endsWith_iff.mp hend
      rw [Path.parts_slash, follow_append_eq_ok_iff] at h
      obtain ⟨middle, hmiddle, hlast⟩ := h
      rw [Path.stem_append_slash, hmiddle, follow_empty hlast]

/-- A name that is joined to the path of a directory leads to what the directory has under it. -/
theorem lookup_join {path name : String} {tree inner : FileTree}
    (hpath : files.lookup path = .ok tree) (hinner : tree.child? (.ofText name) = some inner)
    (hname : Path.IsName name) : files.lookup (Path.join path name) = .ok inner := by
  obtain ⟨place, hlocate, htree⟩ := lookup_eq_ok_iff.mp hpath
  obtain ⟨hpath, hfollow⟩ := locate_eq_ok_iff.mp hlocate
  have hstart : files.start (Path.join path name) = files.start path := by
    rw [start, start, Path.isAbsolute_join hpath hname]
  have hstep : files.follow place [name] = .ok (place ++ [.ofText name]) := by
    cases tree with
    | file content => cases hinner
    | directory children =>
        have hlookup : children.lookup (.ofText name) = some inner := hinner
        simp [follow, step, htree, hname.not_isIdle, hname.notDots, hlookup]
    | special => cases hinner
  refine lookup_eq_ok_iff.mpr ⟨place ++ [.ofText name], locate_eq_ok_iff.mpr ⟨?_, ?_⟩, ?_⟩
  · exact Path.join_ne_empty hpath hname
  · rw [hstart, Path.parts_join hpath hname]
    exact follow_append_eq_ok_iff.mpr ⟨place, follow_stem hfollow, hstep⟩
  · rw [FileTree.get?_append, htree, Option.bind_some, FileTree.get?, hinner]
    rfl

/-- **The path of an entry leads to what stands there.** -/
theorem lookup_entryPath {path : String} {tree inner : FileTree} {names : List FileName}
    (hpath : files.lookup path = .ok tree) (hinner : tree.get? names = some inner)
    (hnames : ∀ name ∈ names, name.IsPart) :
    files.lookup (entryPath path names) = .ok inner := by
  induction names generalizing path tree with
  | nil =>
      obtain rfl : tree = inner := Option.some.inj hinner
      exact hpath
  | cons name names ih =>
      obtain ⟨⟨text, rfl, htext⟩, hrest⟩ := List.forall_mem_cons.mp hnames
      obtain ⟨next, hnext, hbelow⟩ := Option.bind_eq_some_iff.mp hinner
      rw [entryPath, List.foldl_cons, FileName.shown_ofText]
      exact ih (lookup_join hpath hnext htext) hbelow hrest

end Files

/-! ## Discovery -/

/-- The names lead to a file with the name of a Go file, not of a test unless tests are asked for,
and not below a directory of an excluded name.  Names are compared by their bytes. -/
structure FileTree.HasGoFile (settings : AnalysisSettings) (tree : FileTree)
    (names : List FileName) (content : ByteArray) : Prop where
  isFile : tree.get? names = some (.file content)
  named : ∃ name, names.getLast? = some name ∧ name.EndsIn ".go" ∧
    (settings.includeTests = true ∨ ¬name.EndsIn "_test.go")
  notExcluded : ∀ text ∈ settings.excludeDirs, FileName.ofText text ∉ names.dropLast

/-- The files are the Go files whose names are texts, all of them, in the order of the bytes of the
names that lead to them. -/
structure FindsExactly (settings : AnalysisSettings) (files : Files) (tree : FileTree)
    (found : List FoundFile) : Prop where
  found_iff : ∀ names content, (∃ file ∈ found, file.names = names ∧ file.content = content) ↔
    tree.HasGoFile settings names content ∧ ∃ text, names.getLast? = some (.ofText text)
  ordered : found.Pairwise fun a b => a.names.map FileName.bytes < b.names.map FileName.bytes
  shown : ∀ file ∈ found, file.path = entryPath settings.rootDir file.names
  pathsOnce : ∀ a ∈ found, ∀ b ∈ found, (∀ name ∈ a.names, name.IsPart) →
    (∀ name ∈ b.names, name.IsPart) → a.path = b.path → a = b
  pathsLead : ∀ file ∈ found, (∀ name ∈ file.names, name.IsPart) →
    files.lookup file.path = .ok (.file file.content)

section Discovery

variable {settings : AnalysisSettings} {files : Files} {tree : FileTree}

/-- What is asked of the name of a file can be asked of its bytes, but that it is a text. -/
theorem isSourceName_iff_endsIn {includeTests : Bool} {name : FileName} :
    isSourceName includeTests name = true ↔ (∃ text, name = .ofText text) ∧
      name.EndsIn ".go" ∧ (includeTests = true ∨ ¬name.EndsIn "_test.go") := by
  have htests : ∀ text, Text.endsWith "_test.go" text = false ↔
      ¬(FileName.ofText text).EndsIn "_test.go" := fun text => by
    rw [FileName.endsIn_ofText_iff, ← Text.endsWith_iff, Bool.not_eq_true]
  have hgo : ∀ text, Text.endsWith ".go" text = true ↔ (FileName.ofText text).EndsIn ".go" :=
    fun text => by rw [FileName.endsIn_ofText_iff, ← Text.endsWith_iff]
  rw [isSourceName_iff]
  simp only [hgo, htests]
  constructor
  · rintro ⟨text, rfl, hrest⟩
    exact ⟨⟨text, rfl⟩, hrest⟩
  · rintro ⟨⟨text, rfl⟩, hrest⟩
    exact ⟨text, rfl, hrest⟩

/-- An entry is kept if it is a file and its name is that of a source. -/
theorem FoundFile.ofEntry?_eq_some_iff {entry : FileEntry} {file : FoundFile} :
    FoundFile.ofEntry? settings entry = some file ↔
      entry = ⟨file.names, some file.content⟩ ∧
        file.path = entryPath settings.rootDir file.names ∧
        ∃ name, file.names.getLast? = some name ∧
          isSourceName settings.includeTests name = true := by
  obtain ⟨names, content⟩ := entry
  obtain ⟨place, path, bytes⟩ := file
  unfold FoundFile.ofEntry?
  cases content with
  | none => simp
  | some content => cases hlast : names.getLast? <;> grind

/-- The files that a discovery keeps of what the walk meets, in its order. -/
def FileTree.goFiles (settings : AnalysisSettings) (tree : FileTree) : List FoundFile :=
  (tree.entries settings.excludes).filterMap (FoundFile.ofEntry? settings)

/-- What is kept of the walk are the Go files whose names are texts. -/
theorem FileTree.mem_goFiles_iff (h : tree.NamesOnce) {file : FoundFile} :
    file ∈ tree.goFiles settings ↔ file.path = entryPath settings.rootDir file.names ∧
      tree.HasGoFile settings file.names file.content ∧
      ∃ text, file.names.getLast? = some (.ofText text) := by
  simp only [goFiles, List.mem_filterMap, FoundFile.ofEntry?_eq_some_iff]
  constructor
  · rintro ⟨_, hmem, rfl, hpath, name, hlast, hname⟩
    obtain ⟨hfile, hskip⟩ := (mem_entries_iff h).mp hmem
    obtain ⟨⟨text, rfl⟩, hnamed⟩ := isSourceName_iff_endsIn.mp hname
    exact ⟨hpath, ⟨hfile, ⟨_, hlast, hnamed⟩, notExcluded_iff.mpr hskip⟩, text, hlast⟩
  · rintro ⟨hpath, ⟨hfile, ⟨name, hlast, hnamed⟩, hfree⟩, text, htext⟩
    obtain rfl : name = .ofText text := Option.some.inj (hlast.symm.trans htext)
    exact ⟨_, (mem_entries_iff h).mpr ⟨hfile, notExcluded_iff.mp hfree⟩, rfl, hpath, _, hlast,
      isSourceName_iff_endsIn.mpr ⟨⟨text, rfl⟩, hnamed⟩⟩

/-- Files are kept in the order of the walk, which is that of their names. -/
theorem FileTree.pairwise_goFiles (settings : AnalysisSettings) (h : tree.NamesOnce) :
    (tree.goFiles settings).Pairwise fun a b => a.names < b.names := by
  refine (pairwise_entries _ tree h).filterMap _ ?_
  intro first second hlt a ha b hb
  obtain ⟨rfl, _⟩ := FoundFile.ofEntry?_eq_some_iff.mp ha
  obtain ⟨rfl, _⟩ := FoundFile.ofEntry?_eq_some_iff.mp hb
  exact hlt

/-- A discovery that nobody stops shows the Go files that the walk meets. -/
theorem outcome_discover (h : sourceTree files settings.rootDir = .ok tree) :
    (discover files settings).outcome = .ok (tree.goFiles settings) := by
  have hfound : (discover files settings).Ensures (· = tree.goFiles settings) := by
    unfold discover
    refine (Run.ensures_ofExcept _).bind fun walked hwalked => ?_
    obtain rfl : tree = walked := Except.ok.inj (h.symm.trans hwalked)
    exact Run.ensures_bind fun _ => Run.ensures_bind fun _ => Run.ensures_pure rfl
  exact (answers_discover h).outcome_of_ensures hfound

end Discovery

/-- **Discovery is exact.**  Take any settings and a machine with a directory under the path of the
root.  A discovery that nobody stops succeeds, whatever the name of the root is, and

* it shows the Go files whose names are texts, each once, and nothing else, with their bytes and
  under the paths that the names below the root give them;
* the names of the files are strictly increasing, name by name and byte by byte;
* of files whose names can be written in a path no two have one path, and the path leads to the
  file. -/
theorem discovery_is_exact (settings : AnalysisSettings) {files : Files} {tree : FileTree}
    (hroot : files.HasDirectory settings.rootDir tree) :
    ∃ found, (discover files settings).outcome = .ok found ∧
      FindsExactly settings files tree found := by
  have hnonempty : settings.rootDir ≠ "" := by
    obtain ⟨place, hlocate, _⟩ := Files.lookup_eq_ok_iff.mp hroot.found
    exact (Files.locate_eq_ok_iff.mp hlocate).1
  have hmem : ∀ file, file ∈ tree.goFiles settings ↔
      file.path = entryPath settings.rootDir file.names ∧
        tree.HasGoFile settings file.names file.content ∧
        ∃ text, file.names.getLast? = some (.ofText text) :=
    fun _ => FileTree.mem_goFiles_iff hroot.namesOnce
  have hordered := FileTree.pairwise_goFiles settings hroot.namesOnce
  refine ⟨_, outcome_discover hroot.sourceTree_eq, ?_, ?_, ?_, ?_, ?_⟩
  · intro names content
    constructor
    · rintro ⟨file, hfile, rfl, rfl⟩
      exact ((hmem file).mp hfile).2
    · intro hgo
      exact ⟨⟨names, entryPath settings.rootDir names, content⟩, (hmem _).mpr ⟨rfl, hgo⟩, rfl, rfl⟩
  · exact hordered.imp (List.map_lt fun _ _ => FileName.lt_iff.mp)
  · exact fun file hfile => ((hmem file).mp hfile).1
  · intro a ha b hb hplain hothers hpaths
    obtain ⟨hpath, hgo, _⟩ := (hmem a).mp ha
    obtain ⟨hother, hgoOther, _⟩ := (hmem b).mp hb
    have hnames : a.names = b.names :=
      entryPath_injective hnonempty hplain hothers (by rw [← hpath, ← hother, hpaths])
    have hcontent : a.content = b.content := by
      have hfile := hgo.isFile
      rw [hnames, hgoOther.isFile] at hfile
      exact (FileTree.file.inj (Option.some.inj hfile)).symm
    exact FoundFile.ext hnames hpaths hcontent
  · intro file hfile hplain
    obtain ⟨hpath, hgo, _⟩ := (hmem file).mp hfile
    rw [hpath]
    exact Files.lookup_entryPath hroot.found hgo.isFile hplain

/-! ## A depot with all kinds of things in it -/

section Depot

/-- The name `café` in an encoding with one byte for a letter. -/
def latinName : FileName := ⟨[0x63, 0x61, 0x66, 0xe9]⟩

/-- The same with the ending of a Go file. -/
def latinGoName : FileName := ⟨latinName.bytes ++ [0x2e, 0x67, 0x6f]⟩

/-- A directory with a file beside a directory of almost the same name, a test, notes and a pipe, a
directory that is left out, and a file and a directory whose names are not texts. -/
def depotTree : FileTree := .directory
  [("slip_test.go", .file "package depot".toUTF8),
    ("slip.go", .file "package depot".toUTF8),
    ("vendor", .directory [("slip.go", .file "package depot".toUTF8)]),
    ("slip", .directory [("form.go", .file "package slip".toUTF8)]),
    ("slip.md", .file "Slips".toUTF8),
    ("pipe.go", .special),
    (latinName, .directory [("cup.go", .file "package cup".toUTF8)]),
    (latinGoName, .file "package depot".toUTF8)]

/-- The directory stands under a name that is left out below the root. -/
def depotFiles : Files where
  root := .directory [("vendor", depotTree)]

def depotSettings : AnalysisSettings := { rootDir := "./vendor/" }

theorem namesOnce_depotTree : depotTree.NamesOnce := by
  refine FileTree.namesOnce_directory.mpr ⟨by decide +kernel, ?_⟩
  simp [FileTree.NamesOnce, FileTree.AllNamesOnce]

/-- The root is written with a dot before and a slash after it. -/
theorem hasDirectory_depot : depotFiles.HasDirectory depotSettings.rootDir depotTree :=
  ⟨Files.lookup_eq_ok_iff.mpr ⟨["vendor"], rfl, rfl⟩, rfl, namesOnce_depotTree⟩

/-- A single byte above 127 is no character, so the name is not a text. -/
theorem latinGoName_ne_ofText (text : String) : latinGoName ≠ .ofText text := by
  intro h
  have htext := FileName.text?_eq_some_iff.mpr h
  have hnone : latinGoName.text? = none := by decide +kernel
  exact absurd (hnone.symm.trans htext) (by simp)

/-- A root is walked through whatever its name is, and a directory of that name below it is not.  A
directory whose name is not a text is walked through, and neither a pipe nor a file whose name is not
a text is shown. -/
theorem depot_discovery_is_exact :
    depotFiles.HasDirectory depotSettings.rootDir depotTree ∧
      ∃ found, (discover depotFiles depotSettings).outcome = .ok found ∧
        FindsExactly depotSettings depotFiles depotTree found ∧
        (∃ file ∈ found, file.names = [latinName, "cup.go"] ∧
          file.path = "./vendor/caf\uFFFD/cup.go") ∧
        (∃ file ∈ found, file.names = ["slip", "form.go"] ∧ file.path = "./vendor/slip/form.go") ∧
        ∀ file ∈ found, file.names ≠ ["vendor", "slip.go"] ∧ file.names ≠ ["pipe.go"] ∧
          file.names ≠ [latinGoName] := by
  obtain ⟨found, hfound, hexact⟩ := discovery_is_exact depotSettings hasDirectory_depot
  -- a file that is there under the name of a Go file is shown with its path
  have hshown : ∀ (names : List FileName) (content : ByteArray),
      depotTree.get? names = some (.file content) →
      (∃ name, names.getLast? = some name ∧ isSourceName false name = true) →
      (∀ text ∈ depotSettings.excludeDirs, FileName.ofText text ∉ names.dropLast) →
      ∃ file ∈ found, file.names = names ∧ file.path = entryPath "./vendor/" names := by
    rintro names content hfile ⟨name, hlast, hname⟩ hfree
    obtain ⟨⟨text, rfl⟩, hnamed⟩ := isSourceName_iff_endsIn.mp hname
    obtain ⟨file, hmem, hnames, _⟩ :=
      (hexact.found_iff names content).mpr ⟨⟨hfile, ⟨_, hlast, hnamed⟩, hfree⟩, text, hlast⟩
    exact ⟨file, hmem, hnames, hnames ▸ hexact.shown file hmem⟩
  refine ⟨hasDirectory_depot, found, hfound, hexact, ?_, ?_, ?_⟩
  · obtain ⟨file, hmem, hnames, hpath⟩ := hshown [latinName, "cup.go"] _ rfl
      ⟨_, rfl, by decide +kernel⟩ (by decide +kernel)
    exact ⟨file, hmem, hnames, hpath.trans (by decide +kernel)⟩
  · obtain ⟨file, hmem, hnames, hpath⟩ := hshown ["slip", "form.go"] _ rfl
      ⟨_, rfl, by decide +kernel⟩ (by decide +kernel)
    exact ⟨file, hmem, hnames, hpath.trans (by decide +kernel)⟩
  · intro file hmem
    obtain ⟨hgo, text, htext⟩ := (hexact.found_iff _ _).mp ⟨file, hmem, rfl, rfl⟩
    refine ⟨fun hnames => ?_, fun hnames => ?_, fun hnames => ?_⟩
    · exact hgo.notExcluded "vendor" (by decide) (hnames ▸ List.mem_cons_self)
    · have hfile := hgo.isFile
      rw [hnames] at hfile
      cases hfile
    · rw [hnames] at htext
      exact latinGoName_ne_ofText text (Option.some.inj htext)

/-- **A discovery does not find every Go file.**  The name of a file in the depot ends in `.go`, but
it is not a text, and the file is not among those that are found. -/
theorem depot_misses_latin_name :
    depotFiles.HasDirectory depotSettings.rootDir depotTree ∧
      depotTree.HasGoFile depotSettings [latinGoName] "package depot".toUTF8 ∧
      ¬∃ found, (discover depotFiles depotSettings).outcome = .ok found ∧
        ∀ names content, (∃ file ∈ found, file.names = names ∧ file.content = content) ↔
          depotTree.HasGoFile depotSettings names content := by
  have hgo : depotTree.HasGoFile depotSettings [latinGoName] "package depot".toUTF8 := by
    refine ⟨rfl, ⟨latinGoName, rfl, ⟨latinName.bytes, rfl⟩, Or.inr ?_⟩, fun _ _ => List.not_mem_nil⟩
    rintro ⟨front, hfront⟩
    have hlength := congrArg List.length hfront
    have hlonger : latinGoName.bytes.length < (FileName.ofText "_test.go").bytes.length := by
      decide +kernel
    rw [List.length_append] at hlength
    omega
  refine ⟨hasDirectory_depot, hgo, ?_⟩
  rintro ⟨found, hfound, hall⟩
  obtain ⟨file, hfile, hnames, _⟩ := (hall _ _).mpr hgo
  have houtcome := outcome_discover hasDirectory_depot.sourceTree_eq
  rw [hfound] at houtcome
  obtain rfl := Except.ok.inj houtcome
  obtain ⟨_, _, text, htext⟩ := (FileTree.mem_goFiles_iff namesOnce_depotTree).mp hfile
  rw [hnames] at htext
  exact latinGoName_ne_ofText text (Option.some.inj htext)

end Depot

end WorkflowGraph
