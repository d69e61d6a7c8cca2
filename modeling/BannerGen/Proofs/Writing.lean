import BannerGen.FileOperations
import BannerGen.Proofs.FileTree
import Mathlib.Data.List.Nodup

/-!
# Writing fragments to files

The names of all fragments are checked before anything is written. `checkNames` makes two checks at
each name, so which error is found depends on the first name at which one of them fails
(`checkNames_eq_error_iff`). Names that pass differ from each other, since they do so in lower case.

Then every fragment is written to a file of its own. Each write leaves the directories as they are,
so a write that is possible at first stays possible after the others (`Output.run_writeFragments`),
and no write touches the file of another fragment.
-/

namespace BannerGen

/-! ### Checking names -/

/-- The name is that of a file in a directory: there is no path in it, and it does not stand for a
directory. -/
structure IsPlainName (name : String) : Prop where
  /-- The name is not empty. -/
  ne_empty : name ≠ ""
  /-- The name does not stand for the directory itself. -/
  ne_dot : name ≠ "."
  /-- The name does not stand for the directory around. -/
  ne_dots : name ≠ ".."
  /-- The name has no slash. -/
  no_slash : '/' ∉ name.toList
  /-- The name has no backslash. -/
  no_backslash : '\\' ∉ name.toList
  /-- The name has no colon. -/
  no_colon : ':' ∉ name.toList

theorem isPlainFileName_iff {name : String} : isPlainFileName name = true ↔ IsPlainName name := by
  have hchars : name.toList.any (fun c => c = '/' || c = '\\' || c = ':') = false ↔
      '/' ∉ name.toList ∧ '\\' ∉ name.toList ∧ ':' ∉ name.toList := by
    rw [List.any_eq_false]
    constructor
    · intro h
      exact ⟨fun hc => h _ hc (by decide), fun hc => h _ hc (by decide),
        fun hc => h _ hc (by decide)⟩
    · rintro ⟨hslash, hbackslash, hcolon⟩ c hc heq
      simp only [Bool.or_eq_true, decide_eq_true_eq] at heq
      rcases heq with (rfl | rfl) | rfl
      · exact hslash hc
      · exact hbackslash hc
      · exact hcolon hc
  simp only [isPlainFileName, Bool.and_eq_true, Bool.not_eq_true', hchars, decide_eq_true_eq]
  constructor
  · rintro ⟨⟨⟨⟨hslash, hbackslash, hcolon⟩, hempty⟩, hdot⟩, hdots⟩
    exact ⟨hempty, hdot, hdots, hslash, hbackslash, hcolon⟩
  · intro h
    exact ⟨⟨⟨⟨h.no_slash, h.no_backslash, h.no_colon⟩, h.ne_empty⟩, h.ne_dot⟩, h.ne_dots⟩

/-- What is wrong with a name that comes after the names `before`. -/
inductive HintNameError.Concerns (lower : String → String) (before : List String) (name : String) :
    HintNameError → Prop
  /-- The name is not plain. -/
  | invalid (h : ¬ IsPlainName name) : Concerns lower before name (.invalid name)
  /-- The name is plain, but exactly one name before it is the same in lower case. -/
  | collision {first : String} (h : IsPlainName name)
    (hfirst : before.filter (fun n => lower n = lower name) = [first]) :
    Concerns lower before name (.collision first name)

section CheckNames

variable {lower : String → String} {earlier names : List String}

/-- If no two names are the same in lower case, the first name that is the same as another one in
lower case is the only one. -/
theorem filter_eq_singleton_of_find? (h : (earlier.map lower).Nodup) {name first : String}
    (hfirst : earlier.find? (fun n => lower n = lower name) = some first) :
    earlier.filter (fun n => lower n = lower name) = [first] := by
  induction earlier with
  | nil => cases hfirst
  | cons n rest ih =>
    rw [List.map_cons, List.nodup_cons] at h
    rw [List.find?_cons] at hfirst
    by_cases hn : lower n = lower name
    · simp only [hn, decide_true, Option.some.injEq] at hfirst
      subst hfirst
      rw [List.filter_cons_of_pos (by simpa using hn)]
      have hrest : rest.filter (fun n => lower n = lower name) = [] := by
        rw [List.filter_eq_nil_iff]
        intro m hm hlower
        refine h.1 (List.mem_map.mpr ⟨m, hm, ?_⟩)
        rw [of_decide_eq_true hlower, hn]
      rw [hrest]
    · simp only [hn, decide_false] at hfirst
      rw [List.filter_cons_of_neg (by simpa using hn)]
      exact ih h.2 hfirst

/-- A name that nothing is wrong with. -/
theorem not_concerns_iff (h : (earlier.map lower).Nodup) {name : String} :
    (∀ e : HintNameError, ¬ e.Concerns lower earlier name) ↔
      IsPlainName name ∧ lower name ∉ earlier.map lower := by
  constructor
  · intro hnone
    have hplain : IsPlainName name := by
      by_contra hplain
      exact hnone _ (.invalid hplain)
    refine ⟨hplain, fun hmem => ?_⟩
    obtain ⟨n, hn, hlower⟩ := List.mem_map.mp hmem
    have hfind : (earlier.find? fun n => lower n = lower name).isSome := by
      rw [List.find?_isSome]
      exact ⟨n, hn, by simpa using hlower⟩
    obtain ⟨first, hfirst⟩ := Option.isSome_iff_exists.mp hfind
    exact hnone _ (.collision hplain (filter_eq_singleton_of_find? h hfirst))
  · rintro ⟨hplain, hfree⟩ e (hnot | ⟨-, hfirst⟩)
    · exact hnot hplain
    · have hmem : _ ∈ earlier.filter fun n => lower n = lower name :=
        hfirst ▸ List.mem_singleton_self _
      rw [List.mem_filter, decide_eq_true_eq] at hmem
      exact hfree (List.mem_map.mpr ⟨_, hmem.1, hmem.2⟩)

/-- At most one thing is wrong with a name. -/
theorem HintNameError.Concerns.unique {name : String} {e e' : HintNameError}
    (h : e.Concerns lower earlier name) (h' : e'.Concerns lower earlier name) : e = e' := by
  rcases h with hnot | ⟨hplain, hfirst⟩ <;> rcases h' with hnot' | ⟨hplain', hfirst'⟩
  · rfl
  · exact absurd hplain' hnot
  · exact absurd hplain hnot'
  · rw [hfirst, List.cons.injEq] at hfirst'
    rw [hfirst'.1]

/-- The check stops at a name that something is wrong with, and goes on after any other. -/
theorem checkNames_cons_cases (h : (earlier.map lower).Nodup) (name : String)
    (names : List String) :
    (∃ e : HintNameError, e.Concerns lower earlier name ∧
      checkNames lower earlier (name :: names) = .error e) ∨
    ((∀ e : HintNameError, ¬ e.Concerns lower earlier name) ∧
      checkNames lower earlier (name :: names) = checkNames lower (earlier ++ [name]) names) := by
  rw [checkNames]
  by_cases hplain : isPlainFileName name = true
  · rw [if_pos hplain]
    rw [isPlainFileName_iff] at hplain
    cases hfind : earlier.find? fun n => lower n = lower name with
    | some first =>
      exact .inl ⟨_, .collision hplain (filter_eq_singleton_of_find? h hfind), rfl⟩
    | none =>
      refine .inr ⟨(not_concerns_iff h).mpr ⟨hplain, fun hmem => ?_⟩, rfl⟩
      obtain ⟨n, hn, hlower⟩ := List.mem_map.mp hmem
      simpa [hlower] using List.find?_eq_none.mp hfind n hn
  · rw [if_neg hplain]
    rw [isPlainFileName_iff] at hplain
    exact .inl ⟨_, .invalid hplain, rfl⟩

theorem nodup_map_concat (h : (earlier.map lower).Nodup) {name : String}
    (hfree : lower name ∉ earlier.map lower) : ((earlier ++ [name]).map lower).Nodup := by
  rw [List.map_append, List.map_singleton]
  simpa using h.concat hfree

/-- The check passes exactly if all names are plain and no two are the same in lower case. -/
theorem checkNames_eq_ok_iff (h : (earlier.map lower).Nodup) :
    checkNames lower earlier names = .ok () ↔
      (∀ name ∈ names, IsPlainName name) ∧ ((earlier ++ names).map lower).Nodup := by
  -- A name that passes joins the earlier ones, which keeps them apart in lower case.
  induction names generalizing earlier with
  | nil =>
    rw [List.append_nil]
    exact ⟨fun _ => ⟨by simp, h⟩, fun _ => rfl⟩
  | cons name names ih =>
    rcases checkNames_cons_cases h name names with ⟨e, he, hstop⟩ | ⟨hfine, hgo⟩
    · rw [hstop]
      refine ⟨fun hok => (by cases hok), fun ⟨hplain, hnodup⟩ => ?_⟩
      -- The name is plain and free, so nothing can be wrong with it.
      rw [List.map_append, List.map_cons, List.nodup_append] at hnodup
      refine absurd he ((not_concerns_iff h).mpr ⟨hplain name List.mem_cons_self, ?_⟩ e)
      exact fun hmem => hnodup.2.2 _ hmem _ List.mem_cons_self rfl
    · obtain ⟨hplain, hfree⟩ := (not_concerns_iff h).mp hfine
      rw [hgo, ih (nodup_map_concat h hfree), List.forall_mem_cons, List.append_assoc,
        List.singleton_append]
      exact and_congr_left fun _ => (and_iff_right hplain).symm

/-- The check fails with what is wrong with the first name that something is wrong with. -/
theorem checkNames_eq_error_iff (h : (earlier.map lower).Nodup) {e : HintNameError} :
    checkNames lower earlier names = .error e ↔
      ∃ before name after, names = before ++ name :: after ∧
        (∀ n ∈ before, IsPlainName n) ∧ ((earlier ++ before).map lower).Nodup ∧
        e.Concerns lower (earlier ++ before) name := by
  induction names generalizing earlier with
  | nil => simp [checkNames, pure, Except.pure]
  | cons name names ih =>
    rcases checkNames_cons_cases h name names with ⟨e', he', hstop⟩ | ⟨hfine, hgo⟩
    · rw [hstop]
      constructor
      · rintro ⟨⟩
        exact ⟨[], name, names, rfl, by simp, by simpa using h, by simpa using he'⟩
      · rintro ⟨_ | ⟨n, before⟩, name', after, hnames, hplain, hnodup, he⟩
        · obtain ⟨rfl, rfl⟩ := List.cons.inj hnames
          rw [List.append_nil] at he
          rw [he.unique he']
        · -- The name would come before the one that something is wrong with.
          obtain ⟨rfl, rfl⟩ := List.cons.inj hnames
          rw [List.map_append, List.map_cons, List.nodup_append] at hnodup
          refine absurd he' ((not_concerns_iff h).mpr ⟨hplain name List.mem_cons_self, ?_⟩ e')
          exact fun hmem => hnodup.2.2 _ hmem _ List.mem_cons_self rfl
    · obtain ⟨hplain, hfree⟩ := (not_concerns_iff h).mp hfine
      rw [hgo, ih (nodup_map_concat h hfree)]
      constructor
      · rintro ⟨before, name', after, rfl, hbefore, hnodup, he⟩
        rw [List.append_assoc, List.singleton_append] at hnodup he
        exact ⟨name :: before, name', after, rfl, List.forall_mem_cons.mpr ⟨hplain, hbefore⟩,
          hnodup, he⟩
      · rintro ⟨_ | ⟨n, before⟩, name', after, hnames, hbefore, hnodup, he⟩
        · obtain ⟨rfl, rfl⟩ := List.cons.inj hnames
          rw [List.append_nil] at he
          exact absurd he (hfine e)
        · obtain ⟨rfl, rfl⟩ := List.cons.inj hnames
          refine ⟨before, name', after, rfl, (List.forall_mem_cons.mp hbefore).2, ?_, ?_⟩
          · rwa [List.append_assoc, List.singleton_append]
          · rwa [List.append_assoc, List.singleton_append]

end CheckNames

/-! ### Writing files -/

namespace FileTree

variable {t : FileTree} {p q : Path} {fs : List Fragment}

/-- The tree with the source of each fragment in a file of its name in a directory. -/
def withFragments (p : Path) (t : FileTree) : List Fragment → FileTree
  | [] => t
  | f :: fs => withFragments p (t.put (p ++ [f.hintName]) (.file f.source.toUTF8)) fs

/-- What is not the file of a fragment stays as it is. -/
theorem get?_withFragments_of_ne (h : ∀ f ∈ fs, q ≠ p ++ [f.hintName]) :
    (withFragments p t fs).get? q = t.get? q := by
  induction fs generalizing t with
  | nil => rfl
  | cons f fs ih =>
    rw [List.forall_mem_cons] at h
    rw [withFragments, ih h.2, get?_put_of_ne h.1]

/-- If no two fragments have the same name, none is replaced by another one. -/
theorem get?_withFragments_of_mem {f : Fragment} (hnodup : (fs.map Fragment.hintName).Nodup)
    (hf : f ∈ fs) (hroot : Path.isAroundRoot (p ++ [f.hintName]) = false) :
    (withFragments p t fs).get? (p ++ [f.hintName]) = some (.file f.source.toUTF8) := by
  induction fs generalizing t with
  | nil => cases hf
  | cons g fs ih =>
    rw [List.map_cons, List.nodup_cons] at hnodup
    rcases List.mem_cons.mp hf with rfl | hf
    · -- The fragments after this one have other names.
      have hne : ∀ g ∈ fs, p ++ [f.hintName] ≠ p ++ [g.hintName] := by
        intro g hg heq
        refine hnodup.1 (List.mem_map.mpr ⟨g, hg, ?_⟩)
        exact (List.cons.inj (List.append_cancel_left heq)).1.symm
      rw [withFragments, get?_withFragments_of_ne hne, get?_put_self hroot]
    · exact ih hnodup.2 hf

end FileTree

namespace Output

variable {directory : Route} {t t' : FileTree} {p : Path} {fs : List Fragment}

/-- A fragment whose file can be written is written to a file in the directory, and what can be
written afterwards is what could be written before. -/
theorem run_writeFile_child (content : ByteArray) {name : String} {q : Path}
    (hp : t.locate? directory = some p) (hdir : t.hasDirectory p = true)
    (h : t.target? (directory.child name) = some q) :
    q = p ++ [name] ∧ (FileTree.writeFile (directory.child name) content).run t =
        (some (), t.put (p ++ [name]) (.file content)) ∧
      FileTree.SameDirectories t (t.put (p ++ [name]) (.file content)) := by
  have hfollow : t.follow? directory.parts = some p := by
    unfold FileTree.locate? at hp
    exact (Option.ite_none_right_eq_some.mp hp).2
  have hq : q = p ++ [name] := by
    have htarget : t.target? (directory.child name) = _ := FileTree.target?_child hfollow hdir
    rw [h, eq_comm, Option.ite_none_right_eq_some] at htarget
    exact (Option.some.inj htarget.2).symm
  subst hq
  obtain ⟨-, hroot, hfree⟩ := FileTree.locate?_of_target? h
  refine ⟨rfl, ?_, FileTree.sameDirectories_put hroot hfree⟩
  rw [FileTree.run_writeFile, h]

/-- Writing the fragments succeeds exactly if each of them could be written on its own. -/
theorem run_writeFragments (hp : t.locate? directory = some p) (hdir : t.hasDirectory p = true) :
    ((∀ f ∈ fs, (t.target? (directory.child f.hintName)).isSome) →
      (writeFragments directory fs).run t =
          (some (fs.map fun f => directory.child f.hintName), t.withFragments p fs) ∧
        FileTree.SameDirectories t (t.withFragments p fs)) ∧
    (((writeFragments directory fs).run t).1.isSome →
      ∀ f ∈ fs, (t.target? (directory.child f.hintName)).isSome) := by
  induction fs generalizing t with
  | nil => exact ⟨fun _ => ⟨rfl, fun _ => rfl⟩, fun _ => by simp⟩
  | cons f fs ih =>
    rw [List.forall_mem_cons, writeFragments, FileTree.run_bind]
    cases htarget : t.target? (directory.child f.hintName) with
    | none =>
      rw [FileTree.run_writeFile, htarget]
      refine ⟨fun h => absurd h.1 (by simp), fun h => absurd h (by simp)⟩
    | some q =>
      obtain ⟨rfl, hrun, hsame⟩ := run_writeFile_child f.source.toUTF8 hp hdir htarget
      -- After the first write the directory is still there, and so are the others' chances.
      obtain ⟨hgo, hback⟩ := ih ((hsame.locate?_eq directory).trans hp) ((hsame p).trans hdir)
      simp only [hsame.target?_eq] at hgo hback
      rw [hrun]
      simp only [FileTree.run_bind, Option.isSome_some, true_and]
      constructor
      · intro h
        obtain ⟨hfs, hsame'⟩ := hgo h
        rw [hfs]
        exact ⟨rfl, hsame.trans hsame'⟩
      · intro h
        refine hback ?_
        generalize (writeFragments directory fs).run _ = result at h ⊢
        obtain ⟨_ | routes, t''⟩ := result
        · cases h
        · rfl

/-- What has been done once the fragments of an output are written to the files at `routes`: the
directory is at `p`, and the tree `t` has become `t'`. -/
structure Written (o : Output) (directory : Route) (t t' : FileTree) (p : Path)
    (routes : List Route) : Prop where
  /-- There is a route for each fragment in order, to its name in the directory. -/
  routes_eq : routes = o.fragments.map fun f => directory.child f.hintName
  /-- No two routes are the same. -/
  nodup : routes.Nodup
  /-- The route to the directory leads to its path. -/
  locate_directory : t'.locate? directory = some p
  /-- The directory is there. -/
  hasDirectory : t'.hasDirectory p = true
  /-- The route of each fragment leads to something right in the directory. -/
  locate_fragment : ∀ f ∈ o.fragments,
    t'.locate? (directory.child f.hintName) = some (p ++ [f.hintName])
  /-- Each file holds the source of its fragment. -/
  holds_source : ∀ f ∈ o.fragments, t'.get? (p ++ [f.hintName]) = some (.file f.source.toUTF8)
  /-- Nothing else is changed, except that there may be directories where nothing was. -/
  frame : ∀ q, (∀ f ∈ o.fragments, q ≠ p ++ [f.hintName]) →
    t'.get? q = t.get? q ∨ (t.get? q = none ∧ t'.get? q = some .directory)

/-- Each operation that writing to a directory takes succeeds on its own: the directory can be made,
and in the tree `t'` with the directory each fragment can be written. -/
def OperationsSucceed (o : Output) (directory : Route) (t t' : FileTree) : Prop :=
  (FileTree.createDirectories directory).run t = (some (), t') ∧
    ∀ f ∈ o.fragments,
      ((FileTree.writeFile (directory.child f.hintName) f.source.toUTF8).run t').1 = some ()

theorem written_withFragments {o : Output} (hnodup : o.hintNames.Nodup)
    (hadds : FileTree.AddsDirectories t t') (hp : t'.locate? directory = some p)
    (hdir : t'.hasDirectory p = true)
    (h : ∀ f ∈ o.fragments, (t'.target? (directory.child f.hintName)).isSome) :
    o.Written directory t (t'.withFragments p o.fragments) p
      (o.fragments.map fun f => directory.child f.hintName) := by
  obtain ⟨-, hsame⟩ := (run_writeFragments hp hdir).1 h
  -- A fragment can only be written right in the directory.
  have htarget : ∀ f ∈ o.fragments,
      t'.target? (directory.child f.hintName) = some (p ++ [f.hintName]) := by
    intro f hf
    obtain ⟨q, hq⟩ := Option.isSome_iff_exists.mp (h f hf)
    rw [hq, (run_writeFile_child f.source.toUTF8 hp hdir hq).1]
  refine ⟨rfl, ?_, (hsame.locate?_eq _).trans hp, (hsame p).trans hdir, fun f hf => ?_,
    fun f hf => ?_, fun q hq => ?_⟩
  · show (o.fragments.map fun f => directory.child f.hintName).Nodup
    have hmap := hnodup.map (fun a b hab => Route.child_inj (r := directory).mp hab)
    rwa [hintNames, List.map_map] at hmap
  · rw [hsame.locate?_eq]
    exact (FileTree.locate?_of_target? (htarget f hf)).1
  · exact FileTree.get?_withFragments_of_mem hnodup hf
      (FileTree.locate?_of_target? (htarget f hf)).2.1
  · rw [FileTree.get?_withFragments_of_ne hq]
    exact hadds q

/-- An output whose names cannot be used is not written. -/
theorem run_writeTo_of_error {o : Output} {e : HintNameError} (h : o.checkHintNames = .error e) :
    (o.writeTo directory).run t = (.error (.hintName e), t) := by
  unfold writeTo
  rw [h]
  rfl

/-- An output whose names can be used is written after its directory is made. -/
theorem run_writeTo_of_ok {o : Output} (h : o.checkHintNames = .ok ()) :
    (o.writeTo directory).run t = match (FileTree.createDirectories directory).run t with
      | (some _, t') => (FileOperation.ofAction (writeFragments directory o.fragments)).run t'
      | (none, t') => (.error .io, t') := by
  unfold writeTo
  rw [h]
  show FileOperation.ofAction (FileTree.createDirectories directory >>= fun _ =>
    writeFragments directory o.fragments) t = _
  unfold FileOperation.ofAction
  rw [FileTree.run_bind]
  rcases (FileTree.createDirectories directory).run t with ⟨_ | done, t'⟩ <;> rfl

/-- Names that can be used differ, since they differ in lower case. -/
theorem nodup_hintNames {o : Output} (h : o.checkHintNames = .ok ()) : o.hintNames.Nodup := by
  have hnil : (([] : List String).map Text.lowerCase).Nodup := List.nodup_nil
  exact List.Nodup.of_map _ ((checkNames_eq_ok_iff hnil).mp h).2

theorem operationsSucceed_iff {o : Output} :
    o.OperationsSucceed directory t t' ↔
      (FileTree.createDirectories directory).run t = (some (), t') ∧
        ∀ f ∈ o.fragments, (t'.target? (directory.child f.hintName)).isSome := by
  unfold OperationsSucceed
  refine and_congr_right fun _ => forall₂_congr fun f _ => ?_
  rw [FileTree.run_writeFile]
  cases t'.target? (directory.child f.hintName) <;> simp

/-- If each operation succeeds, all of them do so one after the other. -/
theorem run_writeTo_of_operationsSucceed {o : Output} (hok : o.checkHintNames = .ok ())
    {t₁ : FileTree} (h : o.OperationsSucceed directory t t₁) :
    ∃ p routes t', (o.writeTo directory).run t = (.ok routes, t') ∧
      o.Written directory t t' p routes := by
  obtain ⟨hmake, htargets⟩ := operationsSucceed_iff.mp h
  obtain ⟨hadds, p, hp, hdir⟩ := FileTree.run_createDirectories hmake
  -- The writes are tried in the tree that has the directory.
  refine ⟨p, _, _, ?_, written_withFragments (nodup_hintNames hok) hadds hp hdir htargets⟩
  rw [run_writeTo_of_ok hok, hmake]
  show FileOperation.ofAction (writeFragments directory o.fragments) t₁ = _
  unfold FileOperation.ofAction
  rw [((run_writeFragments hp hdir).1 htargets).1]

/-- If an output is written, each operation succeeds. -/
theorem operationsSucceed_of_run_writeTo {o : Output} (hok : o.checkHintNames = .ok ())
    {routes : List Route} (h : (o.writeTo directory).run t = (.ok routes, t')) :
    ∃ t₁, o.OperationsSucceed directory t t₁ := by
  rw [run_writeTo_of_ok hok] at h
  rcases hmake : (FileTree.createDirectories directory).run t with ⟨_ | done, t₁⟩
  · rw [hmake] at h
    cases h
  · obtain ⟨-, p, hp, hdir⟩ := FileTree.run_createDirectories hmake
    -- No write can be left out, since a write that fails ends the run.
    refine ⟨t₁, operationsSucceed_iff.mpr ⟨hmake, (run_writeFragments hp hdir).2 ?_⟩⟩
    rw [hmake] at h
    change FileOperation.ofAction (writeFragments directory o.fragments) t₁ = _ at h
    unfold FileOperation.ofAction at h
    generalize (writeFragments directory o.fragments).run t₁ = result at h ⊢
    obtain ⟨_ | routes', t''⟩ := result
    · cases h
    · rfl

/-- Writing an output is a check of all names and then a write for each fragment.

The check passes, whatever lower-casing is, exactly if all names are plain and differ in lower case.
Otherwise it fails with what is wrong with the first name that something is wrong with. If it fails,
no file is touched. If it passes, the output is written exactly if each operation that this takes
succeeds, and then each fragment is in a file of its own and nothing else is changed. -/
theorem writeTo_checks_names_then_writes_fragments (o : Output) :
    (∀ lower : String → String,
      (checkNames lower [] o.hintNames = .ok () ↔
        (∀ name ∈ o.hintNames, IsPlainName name) ∧ (o.hintNames.map lower).Nodup) ∧
      ∀ e, checkNames lower [] o.hintNames = .error e ↔
        ∃ before name after, o.hintNames = before ++ name :: after ∧
          (∀ n ∈ before, IsPlainName n) ∧ (before.map lower).Nodup ∧
          e.Concerns lower before name) ∧
    o.checkHintNames = checkNames Text.lowerCase [] o.hintNames ∧
    (∀ directory t e, o.checkHintNames = .error e →
      (o.writeTo directory).run t = (.error (.hintName e), t)) ∧
    (∀ directory t, o.checkHintNames = .ok () →
      ((∃ routes t', (o.writeTo directory).run t = (.ok routes, t')) ↔
        ∃ t₁, o.OperationsSucceed directory t t₁) ∧
      ∀ routes t', (o.writeTo directory).run t = (.ok routes, t') →
        ∃ p, o.Written directory t t' p routes) := by
  have hnil (lower : String → String) : (([] : List String).map lower).Nodup := List.nodup_nil
  refine ⟨fun lower => ⟨checkNames_eq_ok_iff (hnil lower), fun e => ?_⟩, rfl,
    fun directory t e => run_writeTo_of_error, fun directory t hok => ⟨⟨?_, ?_⟩, ?_⟩⟩
  · exact checkNames_eq_error_iff (hnil lower)
  · rintro ⟨routes, t', h⟩
    exact operationsSucceed_of_run_writeTo hok h
  · rintro ⟨t₁, h⟩
    obtain ⟨p, routes, t', hrun, -⟩ := run_writeTo_of_operationsSucceed hok h
    exact ⟨routes, t', hrun⟩
  · -- The run that succeeds is the one that is known from the operations.
    intro routes t' h
    obtain ⟨t₁, hsucceed⟩ := operationsSucceed_of_run_writeTo hok h
    obtain ⟨p, routes', t'', hrun, hwritten⟩ := run_writeTo_of_operationsSucceed hok hsucceed
    rw [h] at hrun
    obtain ⟨hroutes, rfl⟩ := Prod.mk.inj hrun
    obtain rfl := Except.ok.inj hroutes
    exact ⟨p, hwritten⟩

/-- Two fragments are written to a directory that is reached through one that is not there yet. One
of them replaces an old file, and another file next to the directory stays. If the names differ only
in case, the old file stays too. -/
theorem writeTo_checks_names_then_writes_fragments_over_old :
    let fragment (name source : String) : Fragment :=
      { hintName := name ++ ".g", key := { name }, members := [], source }
    let o : Output := { fragments := [fragment "É" "new", fragment "Ab" "é"] }
    let clash : Output := { fragments := [fragment "Ab" "new", fragment "aB" "é"] }
    let directory : Route := ⟨["way", "..", "out"]⟩
    let old : List (Path × FileNode) :=
      [(["out"], .directory), (["out", "Ab.g"], .file "old".toUTF8),
        (["kept"], .file "kept".toUTF8)]
    o.checkHintNames = .ok () ∧ clash.checkHintNames = .error (.collision "Ab.g" "aB.g") ∧
    (clash.writeTo directory).run ⟨old⟩ =
      (.error (.hintName (.collision "Ab.g" "aB.g")), ⟨old⟩) ∧
    o.OperationsSucceed directory ⟨old⟩ ⟨old ++ [(["way"], .directory)]⟩ ∧
    ∃ p routes t', (o.writeTo directory).run ⟨old⟩ = (.ok routes, t') ∧
      o.Written directory ⟨old⟩ t' p routes := by
  intro fragment o clash directory old
  have hok : o.checkHintNames = .ok () := by decide +kernel
  have hclash : clash.checkHintNames = .error (.collision "Ab.g" "aB.g") := by decide +kernel
  have hsucceed : o.OperationsSucceed directory ⟨old⟩ ⟨old ++ [(["way"], .directory)]⟩ :=
    ⟨rfl, by decide +kernel⟩
  obtain ⟨-, -, hfail, -⟩ := writeTo_checks_names_then_writes_fragments clash
  obtain ⟨-, -, -, hwrite⟩ := writeTo_checks_names_then_writes_fragments o
  obtain ⟨hiff, hwritten⟩ := hwrite directory ⟨old⟩ hok
  obtain ⟨routes, t', hrun⟩ := hiff.mpr ⟨_, hsucceed⟩
  obtain ⟨p, hp⟩ := hwritten routes t' hrun
  exact ⟨hok, hclash, hfail directory ⟨old⟩ _ hclash, hsucceed, p, routes, t', hrun, hp⟩

end Output

end BannerGen
