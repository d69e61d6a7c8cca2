import BannerGen.FileTree
import Mathlib.Data.List.Basic

/-!
# What actions do to a file tree

Where a route leads to depends on the directories of a tree only, not on its files
(`FileTree.SameDirectories`). So writing a file changes neither where other routes lead to nor which
files can be written (`FileTree.sameDirectories_put`).

Making directories adds directories and does nothing else (`FileTree.AddsDirectories`), also if it
fails half-way.
-/

namespace BannerGen

/-! ### Routes to things in a directory -/

namespace Route

/-- The route to something in a directory has its name as the last part. What is before it is the
route to the directory, without an empty part at the end. -/
theorem exists_parts_child (r : Route) (name : String) :
    ∃ base, (r.child name).parts = base ++ [name] ∧ (r.parts = base ∨ r.parts = base ++ [""]) := by
  unfold child
  by_cases h : r.parts.getLast? = some ""
  · refine ⟨r.parts.dropLast, by rw [if_pos h], .inr ?_⟩
    exact (List.dropLast_append_getLast? "" h).symm
  · exact ⟨r.parts, by rw [if_neg h], .inl rfl⟩

/-- Different names give different routes. -/
theorem child_inj {r : Route} {a b : String} : r.child a = r.child b ↔ a = b := by
  constructor
  · intro h
    obtain ⟨base, hbase, -⟩ := exists_parts_child r a
    obtain ⟨base', hbase', -⟩ := exists_parts_child r b
    have hlast := congrArg (fun r : Route => r.parts.getLast?) h
    simpa [hbase, hbase'] using hlast
  · rintro rfl
    rfl

end Route

namespace FileTree

variable {t t' : FileTree} {p q : Path} {n : FileNode}

/-! ### Looking up -/

/-- Paths are compared part by part, which is the same as comparing them at once. -/
theorem get?_eq (t : FileTree) (p : Path) :
    t.get? p = if p.isAroundRoot then some .directory
      else @List.lookup Path FileNode instBEqOfDecidableEq p t.nodes := by
  unfold get?
  rw [lawful_beq_subsingleton (List.instBEq : BEq Path) instBEqOfDecidableEq]

theorem get?_put_self (h : p.isAroundRoot = false) : (t.put p n).get? p = some n := by
  rw [get?_eq, h, put, Assoc.lookup_put_self]
  rfl

theorem get?_put_of_ne (h : q ≠ p) : (t.put p n).get? q = t.get? q := by
  rw [get?_eq, get?_eq, put, Assoc.lookup_put_of_ne h]

/-- What has a name of its own is not around the root directory. -/
theorem isAroundRoot_concat {name : String} (h : name ≠ "..") :
    Path.isAroundRoot (p ++ [name]) = false := by
  simp [Path.isAroundRoot, h]

/-! ### Trees with the same directories -/

/-- Two trees have the same directories. -/
def SameDirectories (t t' : FileTree) : Prop := ∀ p, t'.hasDirectory p = t.hasDirectory p

theorem SameDirectories.trans {t'' : FileTree} (h : SameDirectories t t')
    (h' : SameDirectories t' t'') : SameDirectories t t'' :=
  fun p => (h' p).trans (h p)

/-- Routes are followed from directory to directory. -/
theorem SameDirectories.follow?_eq (h : SameDirectories t t') (parts : List String) :
    t'.follow? parts = t.follow? parts := by
  have hstep : t'.step? = t.step? := by
    funext p part
    unfold step?
    rw [h p]
  unfold follow?
  rw [hstep]

theorem SameDirectories.locate?_eq (h : SameDirectories t t') (r : Route) :
    t'.locate? r = t.locate? r := by
  unfold locate?
  rw [h.follow?_eq]

theorem SameDirectories.target?_eq (h : SameDirectories t t') (r : Route) :
    t'.target? r = t.target? r := by
  unfold target?
  simp only [h.follow?_eq, h _]

/-- Putting a file where no directory is changes no directory. -/
theorem sameDirectories_put {content : ByteArray} (hp : p.isAroundRoot = false)
    (h : t.hasDirectory p = false) : SameDirectories t (t.put p (.file content)) := by
  intro q
  by_cases hq : q = p
  · subst hq
    rw [h, hasDirectory, get?_put_self hp]
    rfl
  · rw [hasDirectory, get?_put_of_ne hq]
    rfl

/-! ### Writing files in a directory -/

theorem follow?_concat (parts : List String) (part : String) :
    t.follow? (parts ++ [part]) = (t.follow? parts).bind (t.step? · part) := by
  unfold follow?
  rw [List.foldlM_append]
  simp [List.foldlM_cons]

/-- The file that can be written under a name in the directory at the end of a route. -/
theorem target?_child {r : Route} {name : String} (hr : t.follow? r.parts = some p)
    (hp : t.hasDirectory p = true) :
    t.target? (r.child name) =
      if (r.child name).isUsable && Route.isName name && !t.hasDirectory (p ++ [name]) then
        some (p ++ [name])
      else none := by
  obtain ⟨base, hparts, hbase⟩ := Route.exists_parts_child r name
  have hfollow : t.follow? base = some p := by
    rcases hbase with rfl | hbase
    · exact hr
    · -- The empty part at the end stays in the directory.
      rw [hbase, follow?_concat, Option.bind_eq_some_iff] at hr
      obtain ⟨p', hp', hstep⟩ := hr
      unfold step? at hstep
      split at hstep
      · cases hstep
      · rw [if_pos (by decide)] at hstep
        rwa [← Option.some.inj hstep]
  unfold target?
  rw [hparts, List.getLast?_concat, List.dropLast_concat]
  simp only [Option.bind_eq_bind, Option.bind_some, hfollow, hp, Bool.and_true]
  rfl

/-- A file that can be written is at the end of its route, under a name of its own, and there is no
directory at its path. -/
theorem locate?_of_target? {r : Route} (h : t.target? r = some p) :
    t.locate? r = some p ∧ p.isAroundRoot = false ∧ t.hasDirectory p = false := by
  unfold target? at h
  obtain ⟨name, hname, h⟩ := Option.bind_eq_some_iff.mp h
  obtain ⟨directory, hdirectory, h⟩ := Option.bind_eq_some_iff.mp h
  rw [Option.ite_none_right_eq_some] at h
  obtain ⟨hchecks, heq⟩ := h
  simp only [Bool.and_eq_true, Bool.not_eq_true', Route.isName, decide_eq_true_eq] at hchecks
  obtain ⟨⟨⟨husable, ⟨hidle, hdots⟩, -⟩, hdir⟩, hfree⟩ := hchecks
  obtain rfl : directory ++ [name] = p := Option.some.inj heq
  -- The last part is a name, so following it goes one step down from the directory.
  refine ⟨?_, isAroundRoot_concat hdots, hfree⟩
  unfold locate?
  rw [if_pos husable, ← List.dropLast_append_getLast? name hname, follow?_concat, hdirectory]
  show t.step? directory name = some (directory ++ [name])
  unfold step?
  rw [if_neg (by simp [hdir]), if_neg (by simp [hidle]), if_neg hdots]

/-! ### Actions -/

/-- What comes after an action that fails is not done. -/
theorem run_bind {α β : Type} (x : Action α) (k : α → Action β) (t : FileTree) :
    (x >>= k).run t = match x.run t with
      | (some a, t') => (k a).run t'
      | (none, t') => (none, t') := by
  rw [OptionT.run_bind]
  show (x.run t).1.elim (pure none) (fun a => (k a).run) (x.run t).2 = _
  rcases x.run t with ⟨_ | a, t'⟩ <;> rfl

/-- Writing a file puts it where it can be written. -/
theorem run_writeFile (r : Route) (content : ByteArray) (t : FileTree) :
    (writeFile r content).run t = match t.target? r with
      | some p => (some (), t.put p (.file content))
      | none => (none, t) := by
  show (match t.target? r with
    | some p => (set (t.put p (.file content)) : Action Unit)
    | none => failure).run t = _
  cases t.target? r <;> rfl

/-- The tree `t'` has what `t` has, and it may have directories where `t` has nothing. -/
def AddsDirectories (t t' : FileTree) : Prop :=
  ∀ p, t'.get? p = t.get? p ∨ (t.get? p = none ∧ t'.get? p = some .directory)

namespace AddsDirectories

theorem refl (t : FileTree) : AddsDirectories t t := fun _ => .inl rfl

theorem trans {t'' : FileTree} (h : AddsDirectories t t') (h' : AddsDirectories t' t'') :
    AddsDirectories t t'' := by
  intro p
  rcases h' p with hp' | ⟨hnone, hdirectory⟩
  · rw [hp']
    exact h p
  · rcases h p with hp | ⟨-, hp⟩
    · exact .inr ⟨hp ▸ hnone, hdirectory⟩
    · -- A directory that was just added is not added again.
      rw [hnone] at hp
      cases hp

theorem put (h : t.get? p = none) : AddsDirectories t (t.put p .directory) := by
  intro q
  by_cases hq : q = p
  · subst hq
    have hroot : q.isAroundRoot = false := by
      by_contra hroot
      rw [get?, if_pos (by simpa using hroot)] at h
      cases h
    exact .inr ⟨h, get?_put_self hroot⟩
  · exact .inl (get?_put_of_ne hq)

end AddsDirectories

theorem addsDirectories_createDirectory (parent : Path) (name : String) (t : FileTree) :
    AddsDirectories t ((createDirectory parent name).run t).2 := by
  have hget : (get : Action FileTree).run t = (some t, t) := rfl
  rw [createDirectory, run_bind, hget]
  cases hnode : t.get? (parent ++ [name]) with
  | some node =>
    simp only [hnode]
    cases node <;> exact .refl t
  | none =>
    simp only [hnode]
    by_cases hname : Route.isName name = true
    · rw [if_pos hname]
      exact .put hnode
    · rw [if_neg hname]
      exact .refl t

theorem addsDirectories_createDirectoriesFrom (p : Path) (steps : List String) (t : FileTree) :
    AddsDirectories t ((createDirectoriesFrom p steps).run t).2 := by
  induction steps generalizing p t with
  | nil => exact .refl t
  | cons step steps ih =>
    rw [createDirectoriesFrom]
    by_cases hstep : step = ".."
    · rw [if_pos hstep]
      exact ih p.around t
    · rw [if_neg hstep, run_bind]
      have hfirst := addsDirectories_createDirectory p step t
      -- The rest is done only if the first directory could be made.
      generalize (createDirectory p step).run t = result at hfirst ⊢
      obtain ⟨_ | done, t'⟩ := result
      · exact hfirst
      · exact hfirst.trans (ih (p ++ [step]) t')

/-- Making directories adds directories only, and if it succeeds, there is one at the end of the
route. -/
theorem run_createDirectories {r : Route} (h : (createDirectories r).run t = (some (), t')) :
    AddsDirectories t t' ∧ ∃ p, t'.locate? r = some p ∧ t'.hasDirectory p = true := by
  unfold createDirectories at h
  by_cases husable : r.isUsable = true
  · rw [if_pos husable, run_bind] at h
    have hadds := addsDirectories_createDirectoriesFrom []
      (if r.endsInDot then r.steps.dropLast else r.steps) t
    generalize (createDirectoriesFrom []
      (if r.endsInDot then r.steps.dropLast else r.steps)).run t = result at h hadds
    obtain ⟨_ | done, t''⟩ := result
    · cases h
    · -- In the end it is checked that the route leads to a directory.
      have hcheck : (if (t''.find? r).any FileNode.isDirectory then (return : Action Unit)
          else failure).run t'' = (some (), t') := h
      by_cases hfind : (t''.find? r).any FileNode.isDirectory = true
      · rw [if_pos hfind] at hcheck
        obtain rfl : t'' = t' := congrArg Prod.snd hcheck
        obtain ⟨node, hnode, hdirectory⟩ := Option.any_eq_true .. |>.mp hfind
        obtain ⟨p, hp, hget⟩ := Option.bind_eq_some_iff.mp hnode
        refine ⟨hadds, p, hp, ?_⟩
        rw [hasDirectory, hget]
        exact hdirectory
      · rw [if_neg hfind] at hcheck
        cases congrArg Prod.fst hcheck
  · rw [if_neg husable] at h
    cases h

end FileTree

end BannerGen
