import MarkupAudit.Audit.Amend

/-!
# Writing files

A location is followed by the names of files and folders alone, so it leads to the same place in trees
with the same names (`SameNames.locate_eq`). Writing a file that is there keeps all names, and what the
other files hold (`sameNames_writeText`, `content?_writeText`). A file that can be read can be written
unless it is protected (`writable_of_proper`).
-/

namespace MarkupAudit.FileTree

/-! ### Trees with the same names -/

/-- Two trees with the same files and folders, of which the same are protected, whatever the files
hold. -/
structure SameNames (t u : FileTree) : Prop where
  folders : u.folders = t.folders
  files : u.files.map (·.1) = t.files.map (·.1)
  readOnly : u.readOnly = t.readOnly

theorem isFolder_eq_any (t : FileTree) (name : List Text) :
    t.isFolder name = (name.isEmpty || t.folders.any (fun f => name.isPrefixOf f) ||
      (t.files.map (·.1)).any fun f => name.isPrefixOf f && f != name) := by
  rw [isFolder, List.any_map]
  rfl

theorem isSome_content? (t : FileTree) (name : List Text) :
    (t.content? name).isSome = (t.files.map (·.1)).any (· == name) := by
  rw [content?, Option.isSome_map, List.isSome_find?, List.any_map]
  rfl

namespace SameNames

variable {t u v : FileTree}

theorem refl (t : FileTree) : SameNames t t :=
  ⟨rfl, rfl, rfl⟩

theorem symm (h : SameNames t u) : SameNames u t :=
  ⟨h.folders.symm, h.files.symm, h.readOnly.symm⟩

theorem trans (h : SameNames t u) (h' : SameNames u v) : SameNames t v :=
  ⟨h'.folders.trans h.folders, h'.files.trans h.files, h'.readOnly.trans h.readOnly⟩

theorem isFolder_eq (h : SameNames t u) (name : List Text) : u.isFolder name = t.isFolder name := by
  rw [isFolder_eq_any, isFolder_eq_any, h.folders, h.files]

theorem isSome_eq (h : SameNames t u) (name : List Text) :
    (u.content? name).isSome = (t.content? name).isSome := by
  rw [isSome_content?, isSome_content?, h.files]

theorem follow_eq (h : SameNames t u) (here parts : List Text) :
    u.follow here parts = t.follow here parts := by
  induction parts generalizing here with
  | nil => rfl
  | cons part parts ih => rw [follow, follow, h.isFolder_eq, h.isSome_eq, ih]

theorem locate_eq (h : SameNames t u) (place : Location) : u.locate place = t.locate place := by
  rw [locate, locate, h.follow_eq]

theorem writable_eq (h : SameNames t u) (place : Location) : u.writable place = t.writable place := by
  rw [writable, writable, h.locate_eq]
  cases t.locate place with
  | error f => rfl
  | ok name => simp only [h.isFolder_eq, h.readOnly]

/-- What is read at a location depends only on what the file there holds. -/
theorem read_eq (h : SameNames t u) {place : Location}
    (held : ∀ name, t.locate place = .ok name → u.content? name = t.content? name) :
    u.read place = t.read place := by
  rw [read, read, h.locate_eq]
  cases hlocate : t.locate place with
  | error f => rfl
  | ok name =>
      simp only
      rw [held name hlocate, h.isFolder_eq]

end SameNames

/-- A tree in which no file has the name of a folder. -/
def Proper (t : FileTree) : Prop :=
  ∀ f ∈ t.files, t.isFolder f.1 = false

theorem isSome_content?_iff {t : FileTree} {name : List Text} :
    (t.content? name).isSome = true ↔ ∃ f ∈ t.files, f.1 = name := by
  simp [content?]

theorem Proper.isFolder_eq_false {t : FileTree} (h : t.Proper) {name : List Text}
    (there : (t.content? name).isSome = true) : t.isFolder name = false := by
  obtain ⟨f, hf, rfl⟩ := isSome_content?_iff.1 there
  exact h f hf

/-! ### Writing -/

theorem map_putFile {name : List Text} (content : FileContent)
    {files : List (List Text × FileContent)} (h : name ∈ files.map (·.1)) :
    (putFile name content files).map (·.1) = files.map (·.1) := by
  induction files with
  | nil => cases h
  | cons f files ih =>
      rw [putFile]
      split
      case isTrue heq => rw [List.map_cons, List.map_cons, heq]
      case isFalse hne =>
        rw [List.map_cons, List.mem_cons] at h
        rw [List.map_cons, List.map_cons, ih (h.resolve_left (Ne.symm hne))]

theorem find?_putFile (name other : List Text) (content : FileContent)
    (files : List (List Text × FileContent)) :
    (putFile name content files).find? (fun f => f.1 == other) =
      if name = other then some (name, content) else files.find? fun f => f.1 == other := by
  induction files with
  | nil => by_cases h : name = other <;> simp [putFile, h]
  | cons f files ih =>
      rw [putFile]
      split
      case isTrue hname =>
        by_cases hother : name = other
        · simp [hother]
        · simp [hname, hother]
      case isFalse hname =>
        rw [List.find?_cons, List.find?_cons, ih]
        by_cases hother : name = other
        · subst hother
          rw [beq_eq_false_iff_ne.2 hname, if_pos rfl]
        · simp [hother]

theorem content?_put (t : FileTree) (name other : List Text) (content : FileContent) :
    (t.put name content).content? other =
      if name = other then some content else t.content? other := by
  rw [content?, put, find?_putFile]
  split
  · rfl
  · rfl

theorem writable_eq_ok_iff {t : FileTree} {place : Location} {name : List Text} :
    t.writable place = .ok name ↔
      t.locate place = .ok name ∧ t.isFolder name = false ∧ name ∉ t.readOnly := by
  rw [writable]
  cases t.locate place with
  | error f => simp
  | ok own =>
      simp only [List.contains_iff_mem]
      split
      case isTrue hfolder =>
        refine iff_of_false nofun ?_
        rintro ⟨⟨⟩, hfile, -⟩
        cases hfolder.symm.trans hfile
      case isFalse hfile =>
        split
        case isTrue hmem =>
          refine iff_of_false nofun ?_
          rintro ⟨⟨⟩, -, hname⟩
          exact hname hmem
        case isFalse hmem =>
          refine ⟨?_, fun h => h.1⟩
          rintro ⟨⟩
          exact ⟨rfl, Bool.eq_false_iff.2 hfile, hmem⟩

/-- A location leads to a file at whose name nothing may be written. -/
def Protected (t : FileTree) (place : Location) : Prop :=
  ∃ name ∈ t.readOnly, t.locate place = .ok name

theorem writeText_of_writable {t : FileTree} {place : Location} {name : List Text}
    (h : t.writable place = .ok name) (text : Text) :
    t.writeText place text = (t.put name (.bytes (Text.toUtf8 text)), none) := by
  rw [writeText, write, h]
  rfl

/-- A file that cannot be written stays as it is. -/
theorem writeText_of_error {t : FileTree} {place : Location} {f : FileFault}
    (h : t.writable place = .error f) (text : Text) : t.writeText place text = (t, some f) := by
  rw [writeText, write, h]
  rfl

theorem snd_writeText_eq_some_iff {t : FileTree} {place : Location} {text : Text} {f : FileFault} :
    (t.writeText place text).2 = some f ↔ t.writable place = .error f := by
  cases h : t.writable place with
  | error g =>
      rw [writeText_of_error h]
      exact ⟨fun heq => congrArg Except.error (Option.some.inj heq), by rintro ⟨⟩; rfl⟩
  | ok name =>
      rw [writeText_of_writable h]
      exact ⟨nofun, nofun⟩

/-- A location whose file can be read as text leads to a file. -/
theorem exists_of_readText {t : FileTree} {place : Location} {s : Text}
    (h : t.readText place = .ok s) :
    ∃ name, t.locate place = .ok name ∧ (t.content? name).isSome = true := by
  rw [readText, read] at h
  cases hlocate : t.locate place with
  | error f =>
      rw [hlocate] at h
      cases h
  | ok name =>
      refine ⟨name, rfl, ?_⟩
      cases hcontent : t.content? name with
      | some content => rfl
      | none =>
          rw [hlocate] at h
          simp only [hcontent] at h
          cases h

/-- A file that can be read can be written unless it is protected. -/
theorem writable_of_proper {t : FileTree} {place : Location} {s : Text} (proper : t.Proper)
    (h : t.readText place = .ok s) :
    (t.Protected place ∧ t.writable place = .error .notPermitted) ∨
      ¬ t.Protected place ∧ ∃ name, t.writable place = .ok name := by
  obtain ⟨name, hlocate, there⟩ := exists_of_readText h
  have file := proper.isFolder_eq_false there
  by_cases hmem : name ∈ t.readOnly
  · refine .inl ⟨⟨name, hmem, hlocate⟩, ?_⟩
    rw [writable, hlocate]
    simp [file, hmem]
  · refine .inr ⟨?_, name, writable_eq_ok_iff.2 ⟨hlocate, file, hmem⟩⟩
    rintro ⟨own, hown, hlocate'⟩
    cases hlocate.symm.trans hlocate'
    exact hmem hown

section Write

variable {t u : FileTree} {place : Location} {name other : List Text}

theorem sameNames_writeText (h : t.locate place = .ok name)
    (there : (t.content? name).isSome = true) (text : Text) :
    SameNames t (t.writeText place text).1 := by
  cases hwritable : t.writable place with
  | error f =>
      rw [writeText_of_error hwritable]
      exact .refl t
  | ok own =>
      cases h.symm.trans (writable_eq_ok_iff.1 hwritable).1
      rw [writeText_of_writable hwritable]
      refine ⟨rfl, map_putFile _ ?_, rfl⟩
      rw [isSome_content?, List.any_beq'] at there
      simpa using there

theorem content?_writeText (h : t.locate place = .ok name) (hne : name ≠ other) (text : Text) :
    (t.writeText place text).1.content? other = t.content? other := by
  cases hwritable : t.writable place with
  | error f => rw [writeText_of_error hwritable]
  | ok own =>
      cases h.symm.trans (writable_eq_ok_iff.1 hwritable).1
      rw [writeText_of_writable hwritable, content?_put, if_neg hne]

/-- A file that was written holds what was written. -/
theorem read_writeText (h : t.writable place = .ok name) (there : (t.content? name).isSome = true)
    (text : Text) :
    (t.writeText place text).1.read place = .ok (.bytes (Text.toUtf8 text)) := by
  have hlocate := (writable_eq_ok_iff.1 h).1
  rw [read, (sameNames_writeText hlocate there text).locate_eq, hlocate, writeText_of_writable h]
  simp [content?_put]

/-- Trees in which a file holds the same still do so when the same text has been written to it. -/
theorem content?_writeText_congr (names : SameNames t u) (h : t.locate place = .ok name)
    (held : u.content? name = t.content? name) (text : Text) :
    (u.writeText place text).1.content? name = (t.writeText place text).1.content? name := by
  cases hwritable : t.writable place with
  | error f =>
      rw [writeText_of_error hwritable, writeText_of_error ((names.writable_eq _).trans hwritable)]
      exact held
  | ok own =>
      cases h.symm.trans (writable_eq_ok_iff.1 hwritable).1
      rw [writeText_of_writable hwritable,
        writeText_of_writable ((names.writable_eq _).trans hwritable), content?_put, content?_put,
        if_pos rfl, if_pos rfl]

theorem snd_writeText_congr (h : u.writable place = t.writable place) (text : Text) :
    (u.writeText place text).2 = (t.writeText place text).2 := by
  refine Option.ext fun f => ?_
  rw [snd_writeText_eq_some_iff, snd_writeText_eq_some_iff, h]

end Write

end MarkupAudit.FileTree
