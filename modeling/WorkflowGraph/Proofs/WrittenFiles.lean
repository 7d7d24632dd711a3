import WorkflowGraph.Files.Basic
import WorkflowGraph.Proofs.Names

/-!
# A written file is read back

Putting a file at a place keeps every directory and every name in it, so a path leads where it led
before.  The path of the file then leads to the file, and what is read there is the text that was
written (`Files.read_of_write`).
-/

namespace WorkflowGraph

namespace FileTree

variable {value : FileTree} {name : FileName}

theorem lookup_setChild (children : List (FileName × FileTree)) (other : FileName) :
    (setChild name value children).lookup other =
      if other = name then some value else children.lookup other := by
  induction children with
  | nil =>
      by_cases h : other = name
      · simp [setChild, h]
      · have hne : (other == name) = false := by simpa using h
        simp [setChild, List.lookup_cons, hne, h]
  | cons child children ih =>
      obtain ⟨key, tree⟩ := child
      rw [setChild]
      by_cases hkey : key = name
      · subst hkey
        rw [if_pos rfl]
        by_cases h : other = key
        · simp [h]
        · have hne : (other == key) = false := by simpa using h
          simp [List.lookup_cons, hne, h]
      · rw [if_neg hkey, List.lookup_cons, List.lookup_cons, ih]
        by_cases h : other = key
        · subst h
          simp [hkey]
        · have hne : (other == key) = false := by simpa using h
          simp only [hne]

@[simp] theorem child?_directory (children : List (FileName × FileTree)) (name : FileName) :
    (directory children).child? name = children.lookup name := rfl

/-- Putting something into a tree changes what the first name leads to, and nothing beside it. -/
theorem child?_put (value : FileTree) (names : List FileName) (tree : FileTree)
    (other : FileName) :
    (put value (name :: names) tree).child? other =
      if other = name then some (put value names ((tree.child? name).getD (directory [])))
      else tree.child? other := by
  rw [put, child?_directory, lookup_setChild]
  rfl

/-- What was put at a place is there. -/
theorem get?_put_self (value : FileTree) (names : List FileName) (tree : FileTree) :
    (put value names tree).get? names = some value := by
  induction names generalizing tree with
  | nil => rfl
  | cons name names ih => rw [get?, child?_put, if_pos rfl, Option.bind_some, ih]

theorem get?_append (first second : List FileName) (tree : FileTree) :
    tree.get? (first ++ second) = (tree.get? first).bind (get? second) := by
  induction first generalizing tree with
  | nil => rfl
  | cons name first ih =>
      rw [List.cons_append, get?, get?, Option.bind_assoc]
      congr 1
      funext inner
      exact ih inner

/-- The place holds no directory. -/
def NoDirectory (tree : FileTree) (names : List FileName) : Prop :=
  ∀ children, tree.get? names ≠ some (directory children)

/-- A change where there is no directory keeps every directory, with all names in it. -/
theorem get?_put_of_directory (value : FileTree) {names : List FileName} {tree : FileTree}
    (hnames : tree.NoDirectory names) {place : List FileName}
    {children : List (FileName × FileTree)}
    (hplace : tree.get? place = some (directory children)) :
    ∃ others, (put value names tree).get? place = some (directory others) ∧
      ∀ part, (children.lookup part).isSome → (others.lookup part).isSome := by
  induction names generalizing tree place with
  | nil =>
      cases tree with
      | directory below => exact absurd rfl (hnames below)
      | file content => cases place <;> cases hplace
      | special => cases place <;> cases hplace
  | cons name names ih =>
      cases place with
      | nil =>
          obtain rfl : tree = directory children := Option.some.inj hplace
          refine ⟨_, rfl, ?_⟩
          intro part hpart
          rw [lookup_setChild]
          split
          · rfl
          · exact hpart
      | cons part place =>
          obtain ⟨inner, hinner, hdeeper⟩ := Option.bind_eq_some_iff.mp hplace
          rw [get?, child?_put]
          by_cases hpart : part = name
          · subst hpart
            have hbelow : inner.NoDirectory names := by
              intro found hfound
              refine hnames found ?_
              rw [get?, hinner, Option.bind_some, hfound]
            rw [if_pos rfl, Option.bind_some, hinner, Option.getD_some]
            exact ih hbelow hdeeper
          · rw [if_neg hpart, hinner, Option.bind_some]
            exact ⟨children, hdeeper, fun _ h => h⟩

end FileTree

namespace Path

theorem split_ne_nil (text : List Char) : split text ≠ [] := by
  cases text with
  | nil => exact List.cons_ne_nil _ _
  | cons c rest =>
      rw [split]
      split
      · exact List.cons_ne_nil _ _
      · split
        · exact List.cons_ne_nil _ _
        · exact List.cons_ne_nil _ _

/-- The last part is empty only after a slash, or if the whole text is. -/
theorem eq_nil_or_slash_of_getLast? {text : List Char} (h : (split text).getLast? = some []) :
    text = [] ∨ ∃ front, text = front ++ ['/'] := by
  induction text with
  | nil => exact Or.inl rfl
  | cons c rest ih =>
      right
      obtain ⟨part, parts, hsplit⟩ := List.exists_cons_of_ne_nil (split_ne_nil rest)
      rw [split] at h
      by_cases hc : c = '/'
      · subst hc
        rw [if_pos rfl, hsplit, List.getLast?_cons_cons, ← hsplit] at h
        rcases ih h with rfl | ⟨front, rfl⟩
        · exact ⟨[], rfl⟩
        · exact ⟨'/' :: front, rfl⟩
      · rw [if_neg hc, hsplit] at h
        cases parts with
        | nil => simp at h
        | cons next parts =>
            rw [List.getLast?_cons_cons] at h
            have hlast : (split rest).getLast? = some [] := by
              rw [hsplit, List.getLast?_cons_cons, h]
            rcases ih hlast with rfl | ⟨front, rfl⟩
            · simp [split] at hsplit
            · exact ⟨c :: front, rfl⟩

/-- A path that does not end with a slash is its parts up to the last one, which is not empty. -/
theorem parts_eq_append {path name : String} {before : List String}
    (hslash : ¬Text.endsWith "/" path = true)
    (h : (parts path).reverse.dropWhile (·.isEmpty) = name :: before) :
    parts path = before.reverse ++ [name] := by
  obtain ⟨last, front, hreverse⟩ :=
    List.exists_cons_of_ne_nil (mt List.reverse_eq_nil_iff.mp (split_ne_nil path.toList))
  have hparts : (parts path).reverse = String.ofList last :: front.map String.ofList := by
    rw [parts, ← List.map_reverse, hreverse, List.map_cons]
  have hlast : (split path.toList).getLast? = some last := by
    rw [← List.head?_reverse, hreverse, List.head?_cons]
  have hsome : (String.ofList last).isEmpty = false := by
    by_contra hempty
    have hnil : last = [] := by simpa using hempty
    rw [hnil] at hlast
    rcases eq_nil_or_slash_of_getLast? hlast with hpath | ⟨front, hpath⟩
    · have hsplit : split path.toList = [[]] := by rw [hpath]; rfl
      rw [parts, hsplit] at h
      cases h
    · refine hslash (Text.endsWith_iff.mpr ⟨String.ofList front, ?_⟩)
      rw [← String.toList_inj, hpath]
      simp
  rw [hparts, List.dropWhile_cons_of_neg (by simp [hsome])] at h
  rw [← List.reverse_reverse (parts path), hparts, h, List.reverse_cons]

end Path

namespace Files

variable {files : Files} {names place : List FileName} {value : FileTree}

/-- A step that can be taken can be taken after the change. -/
theorem step_putAt (hnames : files.root.NoDirectory names) {next : List FileName}
    {part : String} (h : files.step place part = .ok next) :
    (files.putAt names value).step place part = .ok next := by
  unfold step at h ⊢
  split at h
  · next children hplace =>
      obtain ⟨others, hothers, hkeep⟩ := FileTree.get?_put_of_directory value hnames hplace
      simp only [putAt, hothers]
      split at h
      · next hidle => rw [← h, if_pos hidle]
      · next hidle =>
          rw [if_neg hidle]
          split at h
          · next hup => rw [← h, if_pos hup]
          · next hup =>
              rw [if_neg hup]
              split at h
              · next hchild => rw [← h, if_pos (hkeep _ hchild)]
              · cases h
  · cases h
  · cases h

theorem follow_putAt (hnames : files.root.NoDirectory names) {parts : List String}
    {final : List FileName}
    (h : files.follow place parts = .ok final) :
    (files.putAt names value).follow place parts = .ok final := by
  induction parts generalizing place with
  | nil => exact h
  | cons part parts ih =>
      rw [follow] at h ⊢
      split at h
      · cases h
      · next next hstep =>
          rw [step_putAt hnames hstep]
          exact ih h

theorem follow_append {first second : List String} {middle : List FileName}
    (h : files.follow place first = .ok middle) :
    files.follow place (first ++ second) = files.follow middle second := by
  induction first generalizing place with
  | nil =>
      cases h
      rfl
  | cons part first ih =>
      rw [follow] at h
      rw [List.cons_append, follow]
      split at h
      · cases h
      · exact ih h

/-- What the target of a path is made of: a directory that the parts before the last one lead to, and
the last part. -/
theorem target_eq_some {path name : String}
    (h : files.target path = .ok (place, some name)) :
    ∃ before, (Path.parts path).reverse.dropWhile (·.isEmpty) = name :: before ∧
      files.follow (files.start path) before.reverse = .ok place ∧
      (∃ children, files.root.get? place = some (.directory children)) ∧
      name ≠ "." ∧ name ≠ ".." := by
  unfold target at h
  split at h
  · split at h <;> cases h
  · next last before hparts =>
      split at h
      · cases h
      · next found hfollow =>
          split at h
          · next children hplace =>
              split at h
              · cases h
              · next hname =>
                  cases h
                  refine ⟨before, hparts, hfollow, ⟨children, hplace⟩, ?_⟩
                  simpa using hname
          · cases h
          · cases h

theorem text?_toUTF8 (text : String) : text? text.toUTF8 = .ok text := by
  have hvalid : text.toUTF8.IsValidUTF8 := text.isValidUTF8
  rw [text?, String.fromUTF8?, dif_pos hvalid]
  rfl

/-- What a successful writing did. -/
theorem writeBytes_eq_ok {path : String} {content : ByteArray} {after : Files}
    (h : files.writeBytes path content = .ok after) :
    ∃ place name, files.target path = .ok (place, some name) ∧
      ¬Text.endsWith "/" path = true ∧ files.root.NoDirectory (place ++ [.ofText name]) ∧
      after = files.putAt (place ++ [.ofText name]) (.file content) := by
  unfold writeBytes at h
  split at h
  · cases h
  · cases h
  · next place name htarget =>
      split at h
      · cases h
      · next hslash =>
          split at h
          · cases h
          · cases h
          · next hnone _ =>
              cases h
              exact ⟨place, name, htarget, hslash, fun children heq => hnone children heq, rfl⟩

/-- **A written file is read back.** -/
theorem read_of_write {path text : String} {after : Files} (h : files.write path text = .ok after) :
    after.read path = .ok text := by
  obtain ⟨place, name, htarget, hslash, hnone, rfl⟩ := writeBytes_eq_ok h
  obtain ⟨before, hparts, hfollow, ⟨children, hplace⟩, hdot, hdots⟩ := target_eq_some htarget
  have hpath : ¬path.isEmpty = true := by
    intro hempty
    obtain rfl : path = "" := by simpa using hempty
    cases hparts
  have hname : name.isEmpty = false := by
    have hhead := List.head?_dropWhile_not (fun part : String => part.isEmpty) (Path.parts path).reverse
    rw [hparts] at hhead
    simpa using hhead
  have hidle : ¬Path.isIdle name = true := by simp [Path.isIdle, hname, hdot]
  -- the directory is still there, and has the file under its name
  obtain ⟨others, hothers, _⟩ :=
    FileTree.get?_put_of_directory (.file text.toUTF8) hnone hplace
  have hfile := FileTree.get?_put_self (.file text.toUTF8) (place ++ [.ofText name]) files.root
  have hchild : others.lookup (.ofText name) = some (.file text.toUTF8) := by
    rw [FileTree.get?_append, hothers, Option.bind_some, FileTree.get?] at hfile
    simpa [FileTree.get?] using hfile
  have hstep : (files.putAt (place ++ [.ofText name]) (.file text.toUTF8)).step place name =
      .ok (place ++ [.ofText name]) := by
    simp only [step, putAt, hothers]
    rw [if_neg hidle, if_neg hdots, if_pos (by simp [hchild])]
  have hlocate : (files.putAt (place ++ [.ofText name]) (.file text.toUTF8)).locate path =
      .ok (place ++ [.ofText name]) := by
    have hstart : (files.putAt (place ++ [.ofText name]) (.file text.toUTF8)).start path =
        files.start path := rfl
    rw [locate, if_neg hpath, Path.parts_eq_append hslash hparts, hstart,
      follow_append (follow_putAt hnone hfollow), follow, hstep]
    rfl
  have hlookup : (files.putAt (place ++ [.ofText name]) (.file text.toUTF8)).lookup path =
      .ok (.file text.toUTF8) := by
    rw [lookup, hlocate]
    simp only [putAt, hfile]
  rw [read, hlookup]
  exact text?_toUTF8 text

end Files

end WorkflowGraph
