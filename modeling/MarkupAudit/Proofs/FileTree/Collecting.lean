import Mathlib.Data.List.Basic
import MarkupAudit.FileTree.Collection
import MarkupAudit.Proofs.FileTree.Naming
import MarkupAudit.Proofs.FileTree.Writing
import MarkupAudit.Proofs.Rule.Findings

/-!
# Collecting is canonical

What is collected is a set of locations in strict order: those of the given files, and those of the
files below the given folders that have one of the extensions (`FileTree.Collects`). So it does not
depend on the order in which names and extensions are given, and the locations that were collected stand
for themselves (`FileTree.collect_canonical`). Nothing is collected if a given name is too long, or if
something below a given folder has a name that is too long or lies too deep (`FileTree.Reachable`).
-/

namespace MarkupAudit

open Location

/-! ### Trees -/

/-- A part of a name that leads down. -/
def LeadsDown (part : Text) : Prop :=
  IsPart part ∧ part ≠ ['.', '.']

/-- A part by which something can be looked for in a folder. -/
structure IsFileName (part : Text) : Prop where
  down : LeadsDown part
  whole : '\x00' ∉ part
  short : FileTree.bytes part ≤ FileTree.maxPart

/-- Where the name of a file starts: at the start folder, at one above it, or at the top. By which name
the start folder lies below those is not part of a tree. -/
inductive IsStart : List Text → Prop where
  | above (n : Nat) : IsStart (List.replicate n ['.', '.'])
  | top : IsStart [['/']]
  | otherTop : IsStart [['/', '/']]

/-- The name of a file or folder: from its start it only leads down. -/
def IsName (name : List Text) : Prop :=
  ∃ start rest, name = start ++ rest ∧ IsStart start ∧ ∀ part ∈ rest, IsFileName part

namespace FileTree

/-- A tree as file systems have it. -/
structure WellFormed (t : FileTree) : Prop where
  files : ∀ f ∈ t.files, IsName f.1
  folders : ∀ f ∈ t.folders, IsName f
  proper : t.Proper

/-- There is a file at a location. -/
def HasFile (t : FileTree) (l : Location) : Prop :=
  ∃ name, t.locate l = .ok name ∧ (t.content? name).isSome = true

/-- There is a folder at a location. -/
def HasFolderAt (t : FileTree) (l : Location) (folder : List Text) : Prop :=
  t.locate l = .ok folder ∧ t.isFolder folder = true

/-- A file lies below a folder: its location goes down from that of the folder. -/
structure LiesBelow (t : FileTree) (l place : Location) : Prop where
  file : t.HasFile l
  folder : ∃ folder, t.HasFolderAt place folder
  down : ∃ rest, rest ≠ [] ∧ (∀ part ∈ rest, LeadsDown part) ∧ l = place.extend rest

/-- What a location stands for: itself if there is a file, or the files below it that have one of
the suffixes, if there is a folder. -/
def Stands (t : FileTree) (suffixes : List Text) (place l : Location) : Prop :=
  l = place ∧ t.HasFile l ∨ t.LiesBelow l place ∧ Text.lower l.suffix ∈ suffixes

/-- There is a file or a folder of a name. -/
def Holds (t : FileTree) (name : List Text) : Prop :=
  t.isFolder name = true ∨ (t.content? name).isSome = true

/-- A location that can be looked for, and searched if it is that of a folder: nothing below it has a
name that is too long, and no folder below it lies too deep. -/
structure Reachable (t : FileTree) (place : Location) : Prop where
  short : t.locate place ≠ .error .nameTooLong
  below : ∀ folder, t.HasFolderAt place folder → ∀ rest, rest ≠ [] →
    (∀ part ∈ rest, LeadsDown part) → t.Holds (folder ++ rest) →
      bytes (place.extend rest).toText ≤ maxName ∧
        (t.isFolder (folder ++ rest) = true → rest.length ≤ Collection.maxDepth)

end FileTree

/-! ### Names below a folder -/

theorem IsStart.leadsOut {start : List Text} (h : IsStart start) :
    ∀ part ∈ start, Collection.leadsOut part = true := by
  intro part hpart
  cases h with
  | above n =>
      rw [List.eq_of_mem_replicate hpart]
      rfl
  | top =>
      rw [List.mem_singleton.1 hpart]
      rfl
  | otherTop =>
      rw [List.mem_singleton.1 hpart]
      rfl

theorem LeadsDown.not_leadsOut {part : Text} (h : LeadsDown part) :
    Collection.leadsOut part = false := by
  obtain ⟨⟨-, -, hslash⟩, hdots⟩ := h
  have hhead : part.head? ≠ some '/' := by
    intro heq
    exact hslash (List.mem_of_mem_head? heq)
  simp [Collection.leadsOut, hdots, hhead]

theorem Collection.remainder?_eq_some_iff {folder name rest : List Text} :
    remainder? folder name = some rest ↔
      name = folder ++ rest ∧ ∃ part more, rest = part :: more ∧ leadsOut part = false := by
  fun_induction remainder? folder name with
  | case1 folder =>
      constructor
      · intro h
        cases h
      · rintro ⟨hname, part, more, rfl, -⟩
        simp at hname
  | case2 part more hout =>
      constructor
      · intro h
        cases h
      · rintro ⟨rfl, part', more', heq, hnot⟩
        cases heq
        rw [hout] at hnot
        cases hnot
  | case3 part more hout =>
      constructor
      · rintro ⟨⟩
        exact ⟨rfl, part, more, rfl, by simpa using hout⟩
      · rintro ⟨rfl, -⟩
        rfl
  | case4 folder part more ih =>
      rw [ih, List.cons_append, List.cons_inj_right]
  | case5 f folder part more hne =>
      constructor
      · intro h
        cases h
      · rintro ⟨heq, -⟩
        cases heq
        exact (hne rfl).elim

/-- What follows the name of a folder in a name can be looked for in the folder. -/
theorem IsName.isFileName {folder rest : List Text} (h : IsName (folder ++ rest))
    (hrest : ∃ part more, rest = part :: more ∧ Collection.leadsOut part = false) :
    ∀ part ∈ rest, IsFileName part := by
  obtain ⟨start, below, heq, hstart, hbelow⟩ := h
  obtain ⟨part, more, rfl, hout⟩ := hrest
  rcases List.append_eq_append_iff.1 heq with ⟨between, rfl, hrest⟩ | ⟨between, rfl, rfl⟩
  · -- the start of the name goes on behind the folder, but its parts lead out
    cases between with
    | nil =>
        rw [List.nil_append] at hrest
        exact hrest ▸ hbelow
    | cons first between =>
        obtain ⟨rfl, -⟩ := List.cons.inj hrest
        have := hstart.leadsOut part (by simp)
        rw [hout] at this
        cases this
  · intro part' hpart
    exact hbelow part' (List.mem_append_right _ hpart)

namespace FileTree

variable {t : FileTree}

theorem isFolder_iff {name : List Text} :
    t.isFolder name = true ↔ name = [] ∨ (∃ f ∈ t.folders, name <+: f) ∨
      ∃ f ∈ t.files, name <+: f.1 ∧ f.1 ≠ name := by
  simp [isFolder, or_assoc]

/-- What there is: the start, and all that the name of a file or folder passes through. -/
theorem holds_iff {name : List Text} :
    t.Holds name ↔ name = [] ∨ ∃ full ∈ t.files.map (·.1) ++ t.folders, name <+: full := by
  unfold Holds
  rw [isFolder_iff, isSome_content?_iff]
  constructor
  · rintro ((hnil | ⟨f, hf, hprefix⟩ | ⟨f, hf, hprefix, -⟩) | ⟨f, hf, rfl⟩)
    · exact .inl hnil
    · exact .inr ⟨f, List.mem_append_right _ hf, hprefix⟩
    · exact .inr ⟨f.1, List.mem_append_left _ (List.mem_map_of_mem hf), hprefix⟩
    · exact .inr ⟨f.1, List.mem_append_left _ (List.mem_map_of_mem hf), List.prefix_refl _⟩
  · rintro (hnil | ⟨full, hfull, hprefix⟩)
    · exact .inl (.inl hnil)
    · rcases List.mem_append.1 hfull with hfile | hfolder
      · obtain ⟨f, hf, rfl⟩ := List.mem_map.1 hfile
        by_cases heq : f.1 = name
        · exact .inr ⟨f, hf, heq⟩
        · exact .inl (.inr (.inr ⟨f, hf, hprefix, heq⟩))
      · exact .inl (.inr (.inl ⟨full, hfolder, hprefix⟩))

/-- Every folder on the way to something in the tree is there. -/
theorem isFolder_of_holds {name more : List Text} (h : t.Holds (name ++ more)) (hmore : more ≠ []) :
    t.isFolder name = true := by
  have hname := List.prefix_append name more
  rcases holds_iff.1 h with hnil | ⟨full, hfull, hprefix⟩
  · exact absurd (List.append_eq_nil_iff.1 hnil).2 hmore
  · rcases List.mem_append.1 hfull with hfile | hfolder
    · obtain ⟨f, hf, rfl⟩ := List.mem_map.1 hfile
      refine isFolder_iff.2 (.inr (.inr ⟨f, hf, hname.trans hprefix, ?_⟩))
      intro heq
      have hle := hprefix.length_le
      have hpos := List.length_pos_iff.2 hmore
      rw [List.length_append, heq] at hle
      omega
    · exact isFolder_iff.2 (.inr (.inl ⟨full, hfolder, hname.trans hprefix⟩))

/-! ### Following names -/

theorem follow_append (t : FileTree) (here parts rest : List Text) :
    t.follow here (parts ++ rest) = (t.follow here parts).bind fun mid => t.follow mid rest := by
  induction parts generalizing here with
  | nil => rfl
  | cons part parts ih =>
      rw [List.cons_append, follow, follow]
      split
      · split
        · exact ih _
        · rfl
      · split <;> rfl

theorem enter_of_leadsDown {part : Text} (h : LeadsDown part) (here : List Text) :
    enter here part = here ++ [part] :=
  if_neg h.2

/-- Parts that lead down lead to their name. -/
theorem follow_down {here rest name : List Text} (hrest : ∀ part ∈ rest, LeadsDown part)
    (h : t.follow here rest = .ok name) : name = here ++ rest := by
  induction rest generalizing here with
  | nil =>
      cases h
      exact (List.append_nil _).symm
  | cons part rest ih =>
      obtain ⟨hpart, hrest⟩ := List.forall_mem_cons.1 hrest
      rw [follow, enter_of_leadsDown hpart] at h
      split at h
      · split at h
        · rw [ih hrest h, List.append_assoc]
          rfl
        · cases h
      · split at h <;> cases h

theorem follow_of_holds {here rest : List Text} (hrest : ∀ part ∈ rest, IsFileName part)
    (h : t.Holds (here ++ rest)) : t.follow here rest = .ok (here ++ rest) := by
  induction rest generalizing here with
  | nil =>
      rw [List.append_nil]
      rfl
  | cons part rest ih =>
      obtain ⟨hpart, hrest⟩ := List.forall_mem_cons.1 hrest
      have hfolder := isFolder_of_holds h (List.cons_ne_nil part rest)
      have hsplit : here ++ part :: rest = (here ++ [part]) ++ rest := by simp
      rw [follow, if_pos hfolder, if_pos hpart.short, enter_of_leadsDown hpart.down, hsplit]
      exact ih hrest (hsplit ▸ h)

theorem locate_eq_ok_iff {place : Location} {name : List Text} :
    t.locate place = .ok name ↔ (∀ part ∈ place.parts, '\x00' ∉ part) ∧
      bytes place.toText ≤ maxName ∧ t.follow place.origin place.parts = .ok name := by
  unfold locate
  split
  case isTrue hnull =>
    simp only [List.any_eq_true, List.contains_iff_mem] at hnull
    obtain ⟨part, hpart, hmem⟩ := hnull
    constructor
    · intro h
      cases h
    · rintro ⟨hnone, -⟩
      exact absurd hmem (hnone part hpart)
  case isFalse hnull =>
    have hnone : ∀ part ∈ place.parts, '\x00' ∉ part := by simpa using hnull
    split
    case isTrue hlong =>
      constructor
      · intro h
        cases h
      · rintro ⟨-, hshort, -⟩
        omega
    case isFalse hshort =>
      constructor
      · intro h
        exact ⟨hnone, by omega, h⟩
      · rintro ⟨-, -, h⟩
        exact h

/-- What lies below a folder is found by its location, if the name is not too long. -/
theorem locate_extend {place : Location} {folder rest : List Text} (hplace : t.locate place = .ok folder)
    (hrest : ∀ part ∈ rest, IsFileName part) (h : t.Holds (folder ++ rest))
    (hshort : bytes (place.extend rest).toText ≤ maxName) :
    t.locate (place.extend rest) = .ok (folder ++ rest) := by
  obtain ⟨hnull, -, hfollow⟩ := locate_eq_ok_iff.1 hplace
  refine locate_eq_ok_iff.2 ⟨fun part hpart => ?_, hshort, ?_⟩
  · rcases List.mem_append.1 hpart with hpart | hpart
    · exact hnull part hpart
    · exact (hrest part hpart).whole
  · show t.follow place.origin (place.parts ++ rest) = _
    rw [follow_append, hfollow]
    exact follow_of_holds hrest h

/-- A location that goes down from that of a folder leads to something below the folder. -/
theorem locate_of_extend {place : Location} {folder rest name : List Text}
    (hplace : t.locate place = .ok folder) (hrest : ∀ part ∈ rest, LeadsDown part)
    (h : t.locate (place.extend rest) = .ok name) : name = folder ++ rest := by
  obtain ⟨-, -, hfollow⟩ := locate_eq_ok_iff.1 hplace
  obtain ⟨-, -, hextend⟩ := locate_eq_ok_iff.1 h
  change t.follow place.origin (place.parts ++ rest) = _ at hextend
  rw [follow_append, hfollow] at hextend
  exact follow_down hrest hextend

/-! ### Searching folders -/

section Search

variable {place : Location} {folder rest : List Text} {suffixes : List Text}

theorem exists_cons_of_leadsDown (hne : rest ≠ []) (hrest : ∀ part ∈ rest, LeadsDown part) :
    ∃ part more, rest = part :: more ∧ Collection.leadsOut part = false := by
  obtain ⟨part, more, rfl⟩ := List.exists_cons_of_ne_nil hne
  exact ⟨part, more, rfl, (hrest part List.mem_cons_self).not_leadsOut⟩

theorem WellFormed.isName (wf : t.WellFormed) {full : List Text}
    (h : full ∈ t.files.map (·.1) ++ t.folders) : IsName full := by
  rcases List.mem_append.1 h with hfile | hfolder
  · obtain ⟨f, hf, rfl⟩ := List.mem_map.1 hfile
    exact wf.files f hf
  · exact wf.folders full hfolder

/-- What is looked at below a folder is all that lies below it. -/
theorem mem_lookedAt_iff (wf : t.WellFormed) :
    rest ∈ Collection.lookedAt t folder ↔
      rest ≠ [] ∧ (∀ part ∈ rest, IsFileName part) ∧ t.Holds (folder ++ rest) := by
  simp only [Collection.lookedAt, List.mem_flatMap, List.mem_filterMap, List.mem_map, List.mem_range,
    Collection.remainder?_eq_some_iff]
  constructor
  · rintro ⟨whole, ⟨full, hfull, rfl, hwhole⟩, n, hn, rfl⟩
    have hnames := (wf.isName hfull).isFileName hwhole
    refine ⟨?_, fun part hpart => hnames part (List.mem_of_mem_take hpart), ?_⟩
    · intro hnil
      have := congrArg List.length hnil
      rw [List.length_take, List.length_nil] at this
      omega
    · exact holds_iff.2 (.inr ⟨_, hfull, List.prefix_append_right_inj folder |>.2 (List.take_prefix _ _)⟩)
  · rintro ⟨hne, hrest, hholds⟩
    obtain ⟨full, hfull, more, rfl⟩ : ∃ full ∈ t.files.map (·.1) ++ t.folders,
        folder ++ rest <+: full := by
      rcases holds_iff.1 hholds with hnil | hfull
      · exact absurd (List.append_eq_nil_iff.1 hnil).2 hne
      · exact hfull
    obtain ⟨part, tail, hcons, hout⟩ :=
      exists_cons_of_leadsDown hne fun part hpart => (hrest part hpart).down
    have hpos := List.length_pos_iff.2 hne
    refine ⟨rest ++ more, ⟨_, hfull, List.append_assoc .., part, tail ++ more, ?_, hout⟩,
      rest.length - 1, ?_, ?_⟩
    · rw [hcons]
      rfl
    · rw [List.length_append]
      omega
    · rw [Nat.sub_add_cancel hpos, List.take_left']
      rfl

/-- What leads down to something in the tree can be looked for. -/
theorem WellFormed.isFileName (wf : t.WellFormed) (hrest : ∀ part ∈ rest, LeadsDown part)
    (h : t.Holds (folder ++ rest)) : ∀ part ∈ rest, IsFileName part := by
  by_cases hne : rest = []
  · subst hne
    exact List.forall_mem_nil _
  · rcases holds_iff.1 h with hnil | ⟨full, hfull, more, rfl⟩
    · exact absurd (List.append_eq_nil_iff.1 hnil).2 hne
    · have hname := wf.isName hfull
      rw [List.append_assoc] at hname
      obtain ⟨part, tail, hcons, hout⟩ := exists_cons_of_leadsDown hne hrest
      have hall := hname.isFileName ⟨part, tail ++ more, by rw [hcons]; rfl, hout⟩
      intro part hpart
      exact hall part (List.mem_append_left _ hpart)

theorem obstacle?_eq_none_iff :
    Collection.obstacle? t place folder = none ↔ ∀ rest ∈ Collection.lookedAt t folder,
      bytes (place.extend rest).toText ≤ maxName ∧
        (t.isFolder (folder ++ rest) = true → rest.length ≤ Collection.maxDepth) := by
  unfold Collection.obstacle?
  split
  case h_1 long hfind => 
    have hmem := List.mem_of_find?_eq_some hfind
    have hlong := List.find?_some hfind
    rw [decide_eq_true_eq] at hlong
    constructor
    · intro h
      cases h
    · intro h
      have := (h long hmem).1
      omega
  case h_2 hfind =>
    have hshort : ∀ rest ∈ Collection.lookedAt t folder, bytes (place.extend rest).toText ≤ maxName := by
      intro rest hrest
      have := List.find?_eq_none.1 hfind rest hrest
      simp only [decide_eq_true_eq] at this
      omega
    split
    case isTrue hdeep =>
      simp only [List.any_eq_true, Bool.and_eq_true, decide_eq_true_eq] at hdeep
      obtain ⟨rest, hrest, hlong, hfolder⟩ := hdeep
      constructor
      · intro h
        cases h
      · intro h
        have := (h rest hrest).2 hfolder
        omega
    case isFalse hdeep =>
      simp only [List.any_eq_true, Bool.and_eq_true, decide_eq_true_eq, not_exists, not_and] at hdeep
      refine ⟨fun _ rest hrest => ⟨hshort rest hrest, fun hfolder => ?_⟩, fun _ => rfl⟩
      by_contra hlong
      exact hdeep rest hrest (by omega) hfolder

/-- The location of a folder can be searched if and only if nothing stands in the way. -/
theorem reachable_iff (wf : t.WellFormed) (h : t.HasFolderAt place folder) :
    t.Reachable place ↔ Collection.obstacle? t place folder = none := by
  rw [obstacle?_eq_none_iff]
  constructor
  · intro hreach rest hrest
    obtain ⟨hne, hnames, hholds⟩ := (mem_lookedAt_iff wf).1 hrest
    exact hreach.below folder h rest hne (fun part hpart => (hnames part hpart).down) hholds
  · intro hall
    refine ⟨fun hlong => ?_, fun folder' h' rest hne hdown hholds => ?_⟩
    · cases h.1.symm.trans hlong
    · cases h.1.symm.trans h'.1
      exact hall rest ((mem_lookedAt_iff wf).2 ⟨hne, wf.isFileName hdown hholds, hholds⟩)

/-- The files below a folder, by their locations. -/
theorem mem_below_iff (wf : t.WellFormed) (h : t.HasFolderAt place folder)
    (hclear : Collection.obstacle? t place folder = none) {l : Location} :
    l ∈ Collection.below t place folder ↔ t.LiesBelow l place := by
  simp only [Collection.below, List.mem_map, List.mem_filterMap,
    Collection.remainder?_eq_some_iff]
  constructor
  · rintro ⟨rest, ⟨f, hf, hname, hrest⟩, rfl⟩
    have hnames := (hname ▸ wf.files f hf).isFileName hrest
    have hdown : ∀ part ∈ rest, LeadsDown part := fun part hpart => (hnames part hpart).down
    have hne : rest ≠ [] := by
      obtain ⟨part, more, rfl, -⟩ := hrest
      exact List.cons_ne_nil part more
    have hfile : (t.content? (folder ++ rest)).isSome = true := isSome_content?_iff.2 ⟨f, hf, hname⟩
    have hshort := (obstacle?_eq_none_iff.1 hclear rest
      ((mem_lookedAt_iff wf).2 ⟨hne, hnames, .inr hfile⟩)).1
    exact ⟨⟨_, locate_extend h.1 hnames (.inr hfile) hshort, hfile⟩, ⟨folder, h⟩,
      rest, hne, hdown, rfl⟩
  · rintro ⟨⟨name, hlocate, hfile⟩, -, rest, hne, hdown, rfl⟩
    rw [locate_of_extend h.1 hdown hlocate] at hfile
    obtain ⟨f, hf, hname⟩ := isSome_content?_iff.1 hfile
    exact ⟨rest, ⟨f, hf, hname, exists_cons_of_leadsDown hne hdown⟩, rfl⟩

/-- What comes of a location: what it stands for if it can be searched, else a fault. -/
def IsExpansion (t : FileTree) (suffixes : List Text) (place : Location) :
    Except CollectFault (Option (List Location)) → Prop
  | .ok found => t.Reachable place ∧ ∀ l, l ∈ found.getD [] ↔ t.Stands suffixes place l
  | .error _ => ¬ t.Reachable place

theorem isExpansion_none (hshort : t.locate place ≠ .error .nameTooLong)
    (hfile : ¬ t.HasFile place) (hfolder : ∀ folder, ¬ t.HasFolderAt place folder) :
    t.IsExpansion suffixes place (.ok none) := by
  refine ⟨⟨hshort, fun folder h => absurd h (hfolder folder)⟩, fun l => ?_⟩
  refine iff_of_false List.not_mem_nil ?_
  rintro (⟨rfl, h⟩ | ⟨⟨-, ⟨folder, h⟩, -⟩, -⟩)
  · exact hfile h
  · exact hfolder folder h

/-- There is no folder where there is a file. -/
theorem HasFile.not_folder (wf : t.WellFormed) (h : t.HasFile place) (folder : List Text) :
    ¬ t.HasFolderAt place folder := by
  rintro ⟨hlocate, hfolder⟩
  obtain ⟨name, hname, hfile⟩ := h
  cases hlocate.symm.trans hname
  rw [wf.proper.isFolder_eq_false hfile] at hfolder
  cases hfolder

theorem HasFile.reachable (wf : t.WellFormed) (h : t.HasFile place) : t.Reachable place := by
  refine ⟨fun hlong => ?_, fun folder hfolder => absurd hfolder (h.not_folder wf folder)⟩
  obtain ⟨name, hname, -⟩ := h
  cases hname.symm.trans hlong

theorem isExpansion_file (wf : t.WellFormed) (hfile : t.HasFile place) :
    t.IsExpansion suffixes place (.ok (some [place])) := by
  refine ⟨hfile.reachable wf, fun l => ?_⟩
  rw [Option.getD_some, List.mem_singleton]
  constructor
  · rintro rfl
    exact .inl ⟨rfl, hfile⟩
  · rintro (⟨heq, -⟩ | ⟨⟨-, ⟨folder, hfolder⟩, -⟩, -⟩)
    · exact heq
    · exact absurd hfolder (hfile.not_folder wf folder)

theorem isExpansion_search (wf : t.WellFormed) (h : t.HasFolderAt place folder) :
    t.IsExpansion suffixes place ((Collection.search t suffixes place folder).map some) := by
  unfold Collection.search
  split
  case h_1 f hobstacle =>
    intro hreach
    rw [reachable_iff wf h, hobstacle] at hreach
    cases hreach
  case h_2 hclear =>
    refine ⟨(reachable_iff wf h).2 hclear, fun l => ?_⟩
    rw [Option.getD_some, List.mem_filter, mem_below_iff wf h hclear, List.contains_iff_mem]
    constructor
    · intro hbelow
      exact .inr hbelow
    · rintro (⟨rfl, hown⟩ | hbelow)
      · exact absurd h (hown.not_folder wf folder)
      · exact hbelow

theorem isExpansion_expand (wf : t.WellFormed) (suffixes : List Text) (place : Location) :
    t.IsExpansion suffixes place (Collection.expand t suffixes place) := by
  unfold Collection.expand find
  cases hlocate : t.locate place with
  | error f =>
      by_cases hlong : f = .nameTooLong
      · subst hlong
        intro hreach
        exact hreach.short hlocate
      · have hnone : t.IsExpansion suffixes place (.ok none) := by
          refine isExpansion_none ?_ ?_ ?_
          · rw [hlocate]
            simpa using hlong
          · rintro ⟨name, h, -⟩
            cases hlocate.symm.trans h
          · rintro folder ⟨h, -⟩
            cases hlocate.symm.trans h
        cases f <;> first | exact hnone | exact absurd rfl hlong
  | ok name =>
      simp only [Collection.namedBy]
      split
      case isTrue hfile => exact isExpansion_file wf ⟨name, hlocate, hfile⟩
      case isFalse hfile =>
        split
        case isTrue hfolder => exact isExpansion_search wf ⟨hlocate, hfolder⟩
        case isFalse hfolder =>
          refine isExpansion_none ?_ ?_ ?_
          · rw [hlocate]
            exact fun h => nomatch h
          · rintro ⟨name', h, hsome⟩
            cases hlocate.symm.trans h
            exact hfile hsome
          · rintro folder ⟨h, hsome⟩
            cases hlocate.symm.trans h
            exact hfolder hsome

/-- What comes of several locations. -/
def IsGathering (t : FileTree) (suffixes : List Text) (places : List Location) :
    Except CollectFault Collection → Prop
  | .ok c => (∀ place ∈ places, t.Reachable place) ∧
      ∀ l, l ∈ c.files ↔ ∃ place ∈ places, t.Stands suffixes place l
  | .error _ => ∃ place ∈ places, ¬ t.Reachable place

theorem isGathering_gather (wf : t.WellFormed) (suffixes : List Text) (places : List Location) :
    t.IsGathering suffixes places (Collection.gather t suffixes places) := by
  induction places with
  | nil => exact ⟨List.forall_mem_nil _, by simp⟩
  | cons place places ih =>
      have hplace := isExpansion_expand wf suffixes place
      rw [Collection.gather]
      cases hexpand : Collection.expand t suffixes place with
      | error f =>
          rw [hexpand] at hplace
          exact ⟨place, List.mem_cons_self, hplace⟩
      | ok found =>
          rw [hexpand] at hplace
          obtain ⟨hreach, hfound⟩ := hplace
          cases hgather : Collection.gather t suffixes places with
          | error f =>
              rw [hgather] at ih
              obtain ⟨other, hother, hnot⟩ := ih
              exact ⟨other, List.mem_cons_of_mem _ hother, hnot⟩
          | ok c =>
              rw [hgather] at ih
              obtain ⟨hall, hfiles⟩ := ih
              refine ⟨List.forall_mem_cons.2 ⟨hreach, hall⟩, fun l => ?_⟩
              have hmem : l ∈ found.getD [] ++ c.files ↔
                  ∃ other ∈ place :: places, t.Stands suffixes other l := by
                rw [List.mem_append, hfound, hfiles]
                simp
              cases found with
              | none => exact hmem
              | some files => exact hmem

end Search

/-! ### Collecting -/

/-- What is collected for names and extensions: all that the names stand for, in strict order. The case
of letters in extensions does not count. -/
structure Collects (t : FileTree) (names extensions : List Text) (files : List Location) : Prop where
  ordered : files.Pairwise fun a b => a.key < b.key
  mem_iff : ∀ l, l ∈ files ↔
    ∃ name ∈ names, t.Stands (extensions.map Text.lower) (ofText name) l

theorem Stands.valid {suffixes : List Text} {place l : Location} (h : t.Stands suffixes place l)
    (hplace : place.Valid) : l.Valid ∧ t.HasFile l := by
  rcases h with ⟨rfl, hfile⟩ | ⟨⟨hfile, -, rest, -, hdown, rfl⟩, -⟩
  · exact ⟨hplace, hfile⟩
  · exact ⟨hplace.extend fun part hpart => (hdown part hpart).1, hfile⟩

section Collects

variable {names names' extensions extensions' : List Text} {files files' : List Location}

theorem Collects.valid (h : t.Collects names extensions files) :
    ∀ l ∈ files, l.Valid ∧ t.HasFile l := by
  intro l hl
  obtain ⟨name, -, hstands⟩ := (h.mem_iff l).1 hl
  exact hstands.valid (valid_ofText name)

/-- Locations in strict order are determined by which they are. -/
theorem Collects.unique (h : t.Collects names extensions files)
    (h' : t.Collects names extensions files') : files' = files := by
  have hnodup : ∀ {ls : List Location}, (ls.Pairwise fun a b => a.key < b.key) → ls.Nodup := by
    intro ls hls
    refine hls.imp ?_
    rintro a b hlt rfl
    exact lt_irrefl _ hlt
  have hperm : files'.Perm files := by
    refine (List.perm_ext_iff_of_nodup (hnodup h'.ordered) (hnodup h.ordered)).2 fun l => ?_
    rw [h'.mem_iff, h.mem_iff]
  refine hperm.eq_of_pairwise (fun a b _ _ hab hba => ?_) h'.ordered h.ordered
  exact absurd hba (lt_asymm hab)

/-- Only which names and extensions are given counts. -/
theorem Collects.congr (h : t.Collects names extensions files)
    (hnames : ∀ name, name ∈ names' ↔ name ∈ names)
    (hextensions : ∀ e, e ∈ extensions' ↔ e ∈ extensions) : t.Collects names' extensions' files := by
  refine ⟨h.ordered, fun l => ?_⟩
  have hlower : Text.lower l.suffix ∈ extensions'.map Text.lower ↔
      Text.lower l.suffix ∈ extensions.map Text.lower := by
    simp only [List.mem_map, hextensions]
  simp only [h.mem_iff, hnames, Stands, hlower]

/-- Locations that were collected stand for themselves. -/
theorem Collects.again (wf : t.WellFormed) (h : t.Collects names extensions files)
    (extensions' : List Text) : t.Collects (files.map toText) extensions' files := by
  refine ⟨h.ordered, fun l => ?_⟩
  constructor
  · intro hl
    obtain ⟨hvalid, hfile⟩ := h.valid l hl
    exact ⟨l.toText, List.mem_map_of_mem hl, .inl ⟨(ofText_toText hvalid).symm, hfile⟩⟩
  · rintro ⟨name, hname, hstands⟩
    obtain ⟨m, hm, rfl⟩ := List.mem_map.1 hname
    obtain ⟨hvalid, hfile⟩ := h.valid m hm
    rw [ofText_toText hvalid] at hstands
    rcases hstands with ⟨rfl, -⟩ | ⟨⟨-, ⟨folder, hfolder⟩, -⟩, -⟩
    · exact hm
    · exact absurd hfolder (hfile.not_folder wf folder)

end Collects

/-- Files are collected if and only if all given names can be searched. -/
theorem collect_cases (wf : t.WellFormed) (names extensions : List Text) :
    (∀ name ∈ names, t.Reachable (ofText name)) ∧
        (∃ c, t.collect names extensions = .ok c ∧ t.Collects names extensions c.files) ∨
      (∃ name ∈ names, ¬ t.Reachable (ofText name)) ∧ ∃ f, t.collect names extensions = .error f := by
  have hgathering := isGathering_gather wf (extensions.map Text.lower) (names.map ofText)
  unfold collect
  cases hgather : Collection.gather t (extensions.map Text.lower) (names.map ofText) with
  | error f =>
      rw [hgather] at hgathering
      obtain ⟨place, hplace, hnot⟩ := hgathering
      obtain ⟨name, hname, rfl⟩ := List.mem_map.1 hplace
      exact .inr ⟨⟨name, hname, hnot⟩, f, rfl⟩
  | ok c =>
      rw [hgather] at hgathering
      obtain ⟨hreach, hfiles⟩ := hgathering
      refine .inl ⟨fun name hname => hreach _ (List.mem_map_of_mem hname), _, rfl, ?_⟩
      have hmem : ∀ l, l ∈ c.files ↔
          ∃ name ∈ names, t.Stands (extensions.map Text.lower) (ofText name) l := by
        intro l
        rw [hfiles]
        simp
      refine ⟨pairwise_sortedSet fun l hl => ?_, fun l => ?_⟩
      · obtain ⟨name, -, hstands⟩ := (hmem l).1 hl
        exact (hstands.valid (valid_ofText name)).1
      · rw [mem_sortedSet, hmem]

/-- Names that can be searched are collected, with what they stand for. -/
theorem exists_collect (wf : t.WellFormed) {names extensions : List Text} {files : List Location}
    (hreach : ∀ name ∈ names, t.Reachable (ofText name)) (h : t.Collects names extensions files) :
    ∃ c, t.collect names extensions = .ok c ∧ c.files = files := by
  rcases collect_cases wf names extensions with ⟨-, c, hc, hcollects⟩ | ⟨⟨name, hname, hnot⟩, -⟩
  · exact ⟨c, hc, h.unique hcollects⟩
  · exact absurd (hreach name hname) hnot

/-- Collecting is canonical. It gives a result if and only if all given names can be searched. The
result is in strict order, it does not depend on the order or the repetition of names and extensions,
and it is its own result. -/
theorem collect_canonical (wf : t.WellFormed) (names extensions : List Text) :
    ((∃ c, t.collect names extensions = .ok c) ↔ ∀ name ∈ names, t.Reachable (ofText name)) ∧
    ∀ c, t.collect names extensions = .ok c → t.Collects names extensions c.files ∧
      (∀ names' extensions', (∀ name, name ∈ names' ↔ name ∈ names) →
        (∀ e, e ∈ extensions' ↔ e ∈ extensions) →
          ∃ c', t.collect names' extensions' = .ok c' ∧ c'.files = c.files) ∧
      ∀ extensions', ∃ c', t.collect (c.files.map toText) extensions' = .ok c' ∧
        c'.files = c.files := by
  rcases collect_cases wf names extensions with
    ⟨hreach, c, hc, hcollects⟩ | ⟨⟨name, hname, hnot⟩, f, hf⟩
  · refine ⟨iff_of_true ⟨c, hc⟩ hreach, fun c' hc' => ?_⟩
    cases hc.symm.trans hc'
    refine ⟨hcollects, fun names' extensions' hnames hextensions => ?_, fun extensions' => ?_⟩
    · refine exists_collect wf (fun name hname => ?_) (hcollects.congr hnames hextensions)
      exact hreach name ((hnames name).1 hname)
    · refine exists_collect wf (fun name hname => ?_) (hcollects.again wf extensions')
      obtain ⟨l, hl, rfl⟩ := List.mem_map.1 hname
      obtain ⟨hvalid, hfile⟩ := hcollects.valid l hl
      rw [ofText_toText hvalid]
      exact hfile.reachable wf
  · refine ⟨iff_of_false ?_ fun hreach => hnot (hreach name hname), fun c hc => ?_⟩
    · rintro ⟨c, hc⟩
      cases hf.symm.trans hc
    · cases hf.symm.trans hc

/-- A file, and a folder with a template and another file. -/
def pages : FileTree :=
  { files :=
      [(["a.html".toList], .bytes []), (["docs".toList, "b.HTML".toList], .bytes []),
       (["docs".toList, "c.txt".toList], .bytes [])] }

theorem wellFormed_pages : pages.WellFormed := by
  have hname : ∀ part ∈ ["a.html".toList, "docs".toList, "b.HTML".toList, "c.txt".toList],
      IsFileName part := by
    intro part hpart
    refine ⟨?_, ?_, ?_⟩
    · unfold LeadsDown IsPart
      revert part
      decide
    · revert part
      decide
    · revert part
      decide +kernel
  refine ⟨fun f hf => ⟨[], f.1, rfl, .above 0, fun part hpart => hname part ?_⟩, ?_, ?_⟩
  · revert f part
    decide
  · exact List.forall_mem_nil _
  · unfold Proper
    decide

/-- Some of these files and the folder by several spellings, and a name that leads nowhere. -/
def pageNames : List Text :=
  ["./a.html".toList, "a.html".toList, "docs//".toList, "docs/c.txt".toList, "d.html".toList]

/-- The folder stands for the template in it, and the other file is taken because it is named. But a
name that is too long makes all fail. -/
theorem collect_canonical_pages :
    (∃ c, pages.collect pageNames [".Html".toList] = .ok c ∧
        c.files.map toText = ["a.html".toList, "docs/b.HTML".toList, "docs/c.txt".toList] ∧
        ∃ c', pages.collect (c.files.map toText) [] = .ok c' ∧ c'.files = c.files) ∧
      ¬ pages.Reachable (ofText (List.replicate 256 'n')) := by
  constructor
  · let found : List Location :=
      ["a.html", "a.html", "docs/b.HTML", "docs/c.txt"].map fun name => ofText name.toList
    have gathered : (Collection.gather pages ([".Html".toList].map Text.lower)
        (pageNames.map ofText)).toOption.map (·.files) = some found := by
      decide +kernel
    obtain ⟨g, hg, hfound⟩ := Option.map_eq_some_iff.1 gathered
    have hsorted : sortedSet found = dropRepeats found :=
      congrArg dropRepeats (List.mergeSort_of_pairwise (by decide +kernel))
    have hcollect : pages.collect pageNames [".Html".toList] =
        .ok { g with files := dropRepeats found } := by
      rw [collect, eq_ok_of_toOption hg, ← hsorted, ← hfound]
      rfl
    have htexts : (dropRepeats found).map toText =
        ["a.html".toList, "docs/b.HTML".toList, "docs/c.txt".toList] := by
      decide +kernel
    refine ⟨_, hcollect, htexts, ?_⟩
    exact ((collect_canonical wellFormed_pages _ _).2 _ hcollect).2.2 []
  · intro hreach
    have hfails : (pages.collect [List.replicate 256 'n'] []).toOption.isNone = true := by
      decide +kernel
    obtain ⟨c, hc⟩ := (collect_canonical wellFormed_pages [List.replicate 256 'n'] []).1.2
      (List.forall_mem_singleton.2 hreach)
    rw [hc] at hfails
    cases hfails

end FileTree

end MarkupAudit
