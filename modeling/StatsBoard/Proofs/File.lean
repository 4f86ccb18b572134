import Mathlib.Data.List.Basic
import StatsBoard.Config.Store
import StatsBoard.File.Tree
import StatsBoard.Proofs.Success
import StatsBoard.Proofs.Text

/-!
# Files that are kept

What is relied on of a disk is that a file which can be read, or is missing, can be written, and
that it then holds what was written (`Disk.Keeps`). A tree of files in which everything stands in a
directory does so (`FileTree.keeps_profiles`).
-/

namespace StatsBoard

/-- The disk keeps the file at a path inside a directory: in every sound state, reading tells what
the file holds and changes nothing; and if the file can be read or is missing, the directory can be
made and the file written, which then holds what was written. -/
structure Disk.Keeps {σ : Type} (disk : Disk (StateM σ)) (directory path : String)
    (contents : σ → Except FileFault String) (sound : σ → Prop) : Prop where
  read (s : σ) : sound s → disk.read path s = (contents s, s)
  write (s : σ) (text : String) : sound s →
    (∀ fault, contents s = .error fault → fault = .notFound) →
    ∃ made written, disk.makeDirectories directory s = (.ok (), made) ∧
      disk.write path text made = (.ok (), written) ∧ sound written ∧ contents written = .ok text

namespace FileTree

variable {tree : FileTree} {way other part : List String} {node : FileNode} {path text : String}

/-- Whatever stands in a tree stands in a directory. -/
def Closed (tree : FileTree) : Prop :=
  ∀ way, tree.node? way ≠ none → ∀ part ∈ approaches way, tree.node? part = some .directory

theorem closed_empty : ({ } : FileTree).Closed := by
  intro way hway
  by_cases hnil : way = []
  · subst hnil
    exact nofun
  · simp [node?, hnil] at hway

/-- What was put at the end of a way stands there. -/
theorem node_put_self (h : way ≠ []) : (tree.put way node).node? way = some node := by
  simp [node?, put, h]

/-- Nothing changes at the end of other ways. -/
theorem node_put_ne (h : other ≠ way) : (tree.put way node).node? other = tree.node? other := by
  have hsame : ∀ entry : List String × FileNode,
      decide ((entry.1 != way) = true ∧ (entry.1 == other) = true) = (entry.1 == other) := by
    intro entry
    by_cases hentry : entry.1 = other <;> simp [hentry, h]
  have hfind : (tree.nodes.filter (·.1 != way)).find? (·.1 == other) =
      tree.nodes.find? (·.1 == other) := by
    rw [List.find?_filter]
    exact congrArg (List.find? · tree.nodes) (funext hsame)
  simp [node?, put, Ne.symm h, hfind]

/-- A way is longer than the ways that lead to it. -/
theorem ne_of_mem_approaches (h : part ∈ approaches way) : part ≠ way := by
  obtain ⟨i, hi, rfl⟩ := List.mem_map.mp h
  intro heq
  have hlength := congrArg List.length heq
  rw [List.length_take] at hlength
  have hlt := List.mem_range.mp hi
  omega

/-- A way can be approached if all that leads to it are directories. -/
theorem approach_eq_ok_iff : tree.approach way = .ok () ↔
    ∀ part ∈ approaches way, tree.node? part = some .directory := by
  rw [approach, List.forM_eq_forM, forM_eq_ok_iff]
  refine forall₂_congr fun part _ => ?_
  split <;> simp_all

/-- A tree stays closed if something is put into a directory, unless it replaces a directory by a
file. -/
theorem Closed.put (h : tree.Closed)
    (hway : ∀ part ∈ approaches way, tree.node? part = some .directory)
    (hnode : tree.node? way = some .directory → node = .directory) :
    (tree.put way node).Closed := by
  intro other hother part hpart
  by_cases hway' : other = way
  · subst hway'
    rw [node_put_ne (ne_of_mem_approaches hpart)]
    exact hway part hpart
  · rw [node_put_ne hway'] at hother
    have hdirectory := h other hother part hpart
    by_cases hsame : part = way
    · subst hsame
      by_cases hnil : part = []
      · subst hnil
        rfl
      · rw [node_put_self hnil, hnode hdirectory]
    · rw [node_put_ne hsame]
      exact hdirectory

/-- The ways that lead to a part of a way lead to the way. -/
theorem approaches_take {k : Nat} (hk : k ≤ way.length) :
    approaches (way.take k) = (List.range k).map way.take := by
  rw [approaches, List.length_take, Nat.min_eq_left hk]
  refine List.map_congr_left fun i hi => ?_
  rw [List.take_take, Nat.min_eq_left (Nat.le_of_lt (List.mem_range.mp hi))]

/-- To an entry of a directory lead the directory and what leads to it. -/
theorem approaches_concat {name : String} :
    approaches (way ++ [name]) = (List.range (way.length + 1)).map way.take := by
  rw [approaches, List.length_append, List.length_singleton]
  refine List.map_congr_left fun i hi => ?_
  exact List.take_append_of_le_length (Nat.lt_succ_iff.mp (List.mem_range.mp hi))

/-- The directories on a way can be made, shortest first, if no file stands in their place. Nothing
else changes. -/
theorem make_directories_of_free (h : tree.Closed) (whole : List String) {k : Nat}
    (hk : k ≤ way.length + 1)
    (hfree : ∀ i < k, ∀ text, tree.node? (way.take i) ≠ some (.file text)) :
    ∃ made, ((List.range k).map way.take).foldlM (fun tree part => tree.makeDirectory whole part)
        tree = .ok made ∧ made.Closed ∧
      (∀ i < k, made.node? (way.take i) = some .directory) ∧
      ∀ other, (∀ i < k, other ≠ way.take i) → made.node? other = tree.node? other := by
  induction k with
  | zero => exact ⟨tree, rfl, h, nofun, fun _ _ => rfl⟩
  | succ k ih =>
      obtain ⟨made, hmade, hclosed, hdirectories, hothers⟩ :=
        ih (by omega) fun i hi => hfree i (by omega)
      have hdistinct : ∀ i < k, way.take k ≠ way.take i := by
        intro i hi heq
        have hlength := congrArg List.length heq
        rw [List.length_take, List.length_take] at hlength
        omega
      have happroach : ∀ part ∈ approaches (way.take k), made.node? part = some .directory := by
        rw [approaches_take (by omega)]
        intro part hpart
        obtain ⟨i, hi, rfl⟩ := List.mem_map.mp hpart
        exact hdirectories i (List.mem_range.mp hi)
      rw [List.range_succ, List.map_append, List.foldlM_append, hmade]
      cases hnode : made.node? (way.take k) with
      | none =>
          have hnil : way.take k ≠ [] := by
            intro hnil
            rw [hnil] at hnode
            cases hnode
          refine ⟨made.put (way.take k) .directory, by simp [makeDirectory, hnode],
            hclosed.put happroach fun _ => rfl, fun i hi => ?_, fun other hother => ?_⟩
          · rcases Nat.lt_succ_iff_lt_or_eq.mp hi with hi | rfl
            · rw [node_put_ne (Ne.symm (hdistinct i hi)), hdirectories i hi]
            · exact node_put_self hnil
          · rw [node_put_ne (hother k (by omega)), hothers other fun i hi => hother i (by omega)]
      | some node =>
          cases node with
          | directory =>
              refine ⟨made, by simp [makeDirectory, hnode], hclosed, fun i hi => ?_,
                fun other hother => hothers other fun i hi => hother i (by omega)⟩
              rcases Nat.lt_succ_iff_lt_or_eq.mp hi with hi | rfl
              · exact hdirectories i hi
              · exact hnode
          | file text =>
              rw [hothers _ hdistinct] at hnode
              exact absurd hnode (hfree k (by omega) text)

/-- Making a directory makes the directories on its way. -/
theorem make_directories_eq (hpath : path ≠ "") : tree.makeDirectories path =
    ((List.range ((names path).length + 1)).map (names path).take).foldlM
      (fun tree part => tree.makeDirectory (names path) part) tree := by
  rw [makeDirectories, FileTree.way, if_neg hpath, ok_bind, List.range_succ, List.map_append,
    List.map_singleton, List.take_length, ← approaches]

/-- Once a directory is made, its entries can be approached, and they are what they were. -/
theorem make_directories_keeps (h : tree.Closed) (hpath : path ≠ "") (name : String)
    (hfree : ∀ part ∈ approaches (names path ++ [name]), ∀ text,
      tree.node? part ≠ some (.file text)) :
    ∃ made, tree.makeDirectories path = .ok made ∧ made.Closed ∧
      (∀ part ∈ approaches (names path ++ [name]), made.node? part = some .directory) ∧
      made.node? (names path ++ [name]) = tree.node? (names path ++ [name]) := by
  rw [approaches_concat] at hfree ⊢
  obtain ⟨made, hmade, hclosed, hdirectories, hothers⟩ :=
    make_directories_of_free h (names path) (Nat.le_refl _)
      fun i hi => hfree _ (List.mem_map_of_mem (List.mem_range.mpr hi))
  refine ⟨made, (make_directories_eq hpath).trans hmade, hclosed, fun part hpart => ?_,
    hothers _ fun i hi => ?_⟩
  · obtain ⟨i, hi, rfl⟩ := List.mem_map.mp hpart
    exact hdirectories i (List.mem_range.mp hi)
  · have hmem : (names path).take i ∈ approaches (names path ++ [name]) := by
      rw [approaches_concat]
      exact List.mem_map_of_mem (List.mem_range.mpr hi)
    exact (ne_of_mem_approaches hmem).symm

/-- What is done to a tree on a disk. -/
theorem attempt_of_ok {change : FileTree → Except FileFault FileTree} {after : FileTree}
    (h : change tree = .ok after) : attempt change tree = (.ok (), after) := by
  simp only [attempt, bind, StateT.bind, get, getThe, MonadStateOf.get, StateT.get, pure, h]
  rfl

/-- A text is written where no directory stands and which can be approached. -/
theorem write_of_approach (hpath : path ≠ "")
    (happroach : ∀ part ∈ approaches (names path), tree.node? part = some .directory)
    (hplace : tree.node? (names path) ≠ some .directory) :
    tree.write path text = .ok (tree.put (names path) (.file text)) := by
  rw [write, modify, FileTree.way, if_neg hpath, ok_bind, approach_eq_ok_iff.mpr happroach, ok_bind]
  split
  · rfl
  · exact absurd ‹_› hplace
  · rfl

/-- A file is read where one stands that can be approached. -/
theorem read_of_file (hpath : path ≠ "")
    (happroach : ∀ part ∈ approaches (names path), tree.node? part = some .directory)
    (hfile : tree.node? (names path) = some (.file text)) : tree.read path = .ok text := by
  rw [read, FileTree.way, if_neg hpath, ok_bind, approach_eq_ok_iff.mpr happroach, ok_bind, hfile]

/-- What is written to a file is read from it. -/
theorem read_after_write (h : tree.Closed) (hpath : path ≠ "")
    (happroach : ∀ part ∈ approaches (names path), tree.node? part = some .directory)
    (hplace : tree.node? (names path) ≠ some .directory) (text : String) :
    ∃ written, tree.write path text = .ok written ∧ written.Closed ∧
      written.read path = .ok text := by
  have hroot : names path ≠ [] := fun hnil => hplace (hnil ▸ rfl)
  have hput : ∀ part ∈ approaches (names path),
      (tree.put (names path) (.file text)).node? part = some .directory :=
    fun part hpart => (node_put_ne (ne_of_mem_approaches hpart)).trans (happroach part hpart)
  exact ⟨_, write_of_approach hpath happroach hplace,
    h.put happroach fun hdirectory => absurd hdirectory hplace,
    read_of_file hpath hput (node_put_self hroot)⟩

/-- Of the ways that lead to a way, the shorter lead to the longer. -/
theorem pairwise_approaches : (approaches way).Pairwise fun a b => a ∈ approaches b := by
  rw [approaches, List.pairwise_map]
  refine List.Pairwise.imp_of_mem (fun {i j} _ hj hij => ?_) List.pairwise_lt_range
  rw [approaches_take (Nat.le_of_lt (List.mem_range.mp hj))]
  exact List.mem_map_of_mem (List.mem_range.mpr hij)

/-- A file on the way is in the way. -/
theorem approach_of_file (h : tree.Closed) (hpart : part ∈ approaches way)
    (hfile : tree.node? part = some (.file text)) :
    tree.approach way = .error .notDirectory := by
  obtain ⟨before, after, hparts⟩ := List.append_of_mem hpart
  have hbefore : ∀ first ∈ before, tree.node? first = some .directory := by
    intro first hfirst
    have hpairs := hparts ▸ @pairwise_approaches way
    exact h part (by simp [hfile]) first
      ((List.pairwise_append.mp hpairs).2.2 first hfirst part List.mem_cons_self)
  rw [approach, hparts, List.forM_eq_forM, List.forM_append, forM_eq_ok_iff.mpr, ok_bind,
    List.forM_cons, hfile]
  · rfl
  · intro first hfirst
    rw [hbefore first hfirst]

/-- A file that can be read, or is missing, has no file in its way and no directory in its place. -/
theorem free_of_read (h : tree.Closed) (hpath : path ≠ "")
    (hread : ∀ fault, tree.read path = .error fault → fault = .notFound) :
    (∀ part ∈ approaches (names path), ∀ text, tree.node? part ≠ some (.file text)) ∧
      tree.node? (names path) ≠ some .directory := by
  rw [read, FileTree.way, if_neg hpath, ok_bind] at hread
  constructor
  · intro part hpart text hfile
    rw [approach_of_file h hpart hfile] at hread
    cases hread _ rfl
  · intro hdirectory
    have happroach := approach_eq_ok_iff.mpr (h (names path) (by simp [hdirectory]))
    rw [happroach, ok_bind, hdirectory] at hread
    cases hread _ rfl

/-- The names of a file in a directory. -/
theorem names_append {directory name : String} (hdirectory : directory ≠ "")
    (hslash : ∀ c ∈ name.toList, c ≠ '/') (hname : name ≠ "" ∧ name ≠ ".") :
    names (directory ++ "/" ++ name) = names directory ++ [name] := by
  have hchars : (directory ++ "/" ++ name).toList = directory.toList ++ '/' :: name.toList := by
    simp
  have hhead : (directory.toList ++ '/' :: name.toList).head? = directory.toList.head? :=
    List.head?_append_of_ne_nil _ (by simpa using hdirectory)
  have hpiece : Text.split (· == '/') name.toList = [name.toList] :=
    Text.split_of_not (by simpa using hslash)
  unfold names
  rw [hchars, hhead, Text.split_append (by rfl), hpiece]
  simp [hname]

/-- The directory of profiles is an entry of another directory. -/
theorem profiles_directory_eq (environment : Environment) :
    ∃ before, environment.profilesDirectory = before ++ "watchdash" := by
  unfold Environment.profilesDirectory FilePath.join
  split <;> exact ⟨_, rfl⟩

/-- The file of profiles stands in its directory. -/
theorem profiles_path_eq (environment : Environment) :
    environment.profilesDirectory ≠ "" ∧
      environment.profilesPath = environment.profilesDirectory ++ "/" ++ "profiles.json" := by
  obtain ⟨before, hdirectory⟩ := profiles_directory_eq environment
  have hlast : environment.profilesDirectory.toList.getLast? = some 'h' := by
    rw [hdirectory, String.toList_append, List.getLast?_append]
    rfl
  have hne : environment.profilesDirectory ≠ "" := by
    rintro hempty
    rw [hempty] at hlast
    cases hlast
  refine ⟨hne, if_neg ?_⟩
  rw [hlast, not_or]
  exact ⟨hne, by decide⟩

/-- A closed tree keeps the file of profiles. -/
theorem keeps_profiles (environment : Environment) :
    disk.Keeps environment.profilesDirectory environment.profilesPath
      (·.read environment.profilesPath) Closed where
  read tree _ := rfl
  write tree text htree hread := by
    obtain ⟨hdirectory, hpath⟩ := profiles_path_eq environment
    have hne : environment.profilesPath ≠ "" := by
      rw [hpath]
      simp
    have hnames : names environment.profilesPath =
        names environment.profilesDirectory ++ ["profiles.json"] := by
      rw [hpath]
      exact names_append hdirectory (by simp) (by decide)
    obtain ⟨hfree, hplace⟩ := free_of_read htree hne hread
    rw [hnames] at hfree hplace
    obtain ⟨made, hmade, hclosed, happroach, hsame⟩ :=
      make_directories_keeps htree hdirectory "profiles.json" hfree
    rw [← hsame] at hplace
    rw [← hnames] at happroach hplace
    obtain ⟨written, hwrite, hkept, hwritten⟩ :=
      read_after_write hclosed hne happroach hplace text
    exact ⟨made, written, attempt_of_ok hmade, attempt_of_ok hwrite, hkept, hwritten⟩

end FileTree

end StatsBoard
