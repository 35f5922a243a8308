import GitDelivery.Proofs.Sync.Assembly

set_option autoImplicit false

/-! Kustomizations are rendered one after the other, and the first that cannot be rendered ends it. What
a checkout comes to is decided before that for everything but the rendered documents. -/

namespace GitDelivery.Assembly

open Dialogue Work
open Manifest (ChartIndex ChartError Chart Classification Kustomization.Failure)

/-- The kustomizations in some directories were rendered, each from the tree that the overrides of those
before it left. -/
inductive Renders (context : Context) (subscription : Subscription) (root : String) :
    FileTree → List String → Log → FileTree → List (List String) → Prop where
  | nil (tree : FileTree) : Renders context subscription root tree [] [] tree []
  | cons {tree laid last : FileTree} {directory : String} {rest : List String} {changed : Bool}
      {build : Manifest.Kustomization.Build} {documents : List String} {log : Log}
      {others : List (List String)}
      (overridden : Manifest.Kustomization.override subscription.spec.overrides
        (FilePath.relativeTo root directory) directory tree = .ok (changed, laid))
      (built : Manifest.Kustomization.documents context.settings.kustomizeBinary directory build =
        .ok documents)
      (later : Renders context subscription root laid rest log last others) :
      Renders context subscription root tree (directory :: rest)
        (⟨.build laid directory, build⟩ :: log) last (documents :: others)

/-- A kustomization cannot be rendered: its overrides cannot be laid, or it cannot be built. -/
inductive FailsToRender (context : Context) (subscription : Subscription) (root : String)
    (tree : FileTree) (directory : String) : Log → Kustomization.Failure → Prop where
  | override {failure : Kustomization.Failure}
      (failed : Manifest.Kustomization.override subscription.spec.overrides
        (FilePath.relativeTo root directory) directory tree = .error failure) :
      FailsToRender context subscription root tree directory [] failure
  | build {changed : Bool} {laid : FileTree} {build : Manifest.Kustomization.Build}
      {failure : Kustomization.Failure}
      (overridden : Manifest.Kustomization.override subscription.spec.overrides
        (FilePath.relativeTo root directory) directory tree = .ok (changed, laid))
      (failed : Manifest.Kustomization.documents context.settings.kustomizeBinary directory build =
        .error failure) :
      FailsToRender context subscription root tree directory [⟨.build laid directory, build⟩] failure

variable {context : Context} {subscription : Subscription} {root : String} {tree : FileTree}
  {directories : List String} {log : Log}

private theorem render_cons_ends_iff {directory : String} {rest : List String}
    {outcome : Except Kustomization.Failure (List String)} :
    Ends (render context subscription root tree (directory :: rest)).run log outcome ↔
      (∃ failure, FailsToRender context subscription root tree directory log failure ∧
        outcome = .error failure) ∨
      ∃ changed laid build documents later others,
        Manifest.Kustomization.override subscription.spec.overrides
          (FilePath.relativeTo root directory) directory tree = .ok (changed, laid) ∧
        Manifest.Kustomization.documents context.settings.kustomizeBinary directory build =
          .ok documents ∧
        Ends (render context subscription root laid rest).run later others ∧
        log = ⟨.build laid directory, build⟩ :: later ∧
        outcome = others.map (documents ++ ·) := by
  constructor
  · intro ended
    rcases ends_run_bind_iff.mp ended with
      ⟨failure, failed, rfl⟩ | ⟨_, ⟨changed, laid⟩, _, laying, afterLaying, rfl⟩
    · obtain ⟨rfl, same⟩ := ends_known_iff.mp failed
      exact .inl ⟨failure, .override same.symm, rfl⟩
    obtain ⟨rfl, overridden⟩ := ends_known_iff.mp laying
    obtain ⟨_, build, _, asked, afterBuild, rfl⟩ := ends_run_lift_bind_iff.mp afterLaying
    obtain rfl := ends_ask_iff.mp asked
    rcases ends_run_bind_iff.mp afterBuild with
      ⟨failure, failed, rfl⟩ | ⟨_, documents, later, read, afterRead, rfl⟩
    · obtain ⟨rfl, same⟩ := ends_known_iff.mp failed
      exact .inl ⟨failure, .build overridden.symm same.symm, rfl⟩
    · obtain ⟨rfl, built⟩ := ends_known_iff.mp read
      obtain ⟨others, rendered, rfl⟩ := ends_run_bind_pure_iff.mp afterRead
      exact .inr ⟨changed, laid, build, documents, later, others, overridden.symm, built.symm,
        rendered, rfl, rfl⟩
  · have known {α : Type} {result : Except Kustomization.Failure α} :
        Ends (Work.known result).run [] result := ends_known_iff.mpr ⟨rfl, rfl⟩
    rintro (⟨failure, fails, rfl⟩ |
      ⟨changed, laid, build, documents, later, others, overridden, built, rendered, rfl, rfl⟩)
    · cases fails with
      | override failed =>
          refine ends_run_bind_iff.mpr (.inl ⟨failure, ?_, rfl⟩)
          rw [failed]
          exact known
      | @build changed laid build _ overridden failed =>
          refine ends_run_bind_iff.mpr (.inr ⟨[], (changed, laid), _, ?_, ?_, rfl⟩)
          · rw [overridden]
            exact known
          refine ends_run_lift_bind_iff.mpr ⟨_, build, [], ends_ask_iff.mpr rfl, ?_, rfl⟩
          refine ends_run_bind_iff.mpr (.inl ⟨failure, ?_, rfl⟩)
          rw [failed]
          exact known
    · refine ends_run_bind_iff.mpr (.inr ⟨[], (changed, laid), _, ?_, ?_, rfl⟩)
      · rw [overridden]
        exact known
      refine ends_run_lift_bind_iff.mpr ⟨_, build, later, ends_ask_iff.mpr rfl, ?_, rfl⟩
      refine ends_run_bind_iff.mpr (.inr ⟨[], documents, later, ?_, ?_, rfl⟩)
      · rw [built]
        exact known
      · exact ends_run_bind_pure_iff.mpr ⟨others, rendered, rfl⟩

/-- All kustomizations were rendered, and their documents follow in the order of the directories. -/
theorem render_ok_iff {documents : List String} :
    Ends (render context subscription root tree directories).run log (.ok documents) ↔
      ∃ last batches, Renders context subscription root tree directories log last batches ∧
        documents = batches.flatten := by
  induction directories generalizing tree log documents with
  | nil =>
      refine Iff.trans ends_run_pure_iff ?_
      constructor
      · rintro ⟨rfl, same⟩
        cases same
        exact ⟨tree, [], .nil tree, rfl⟩
      · rintro ⟨last, batches, renders, rfl⟩
        cases renders
        exact ⟨rfl, rfl⟩
  | cons directory rest ih =>
      rw [render_cons_ends_iff]
      constructor
      · rintro (⟨_, _, impossible⟩ |
          ⟨changed, laid, build, first, later, outcome, overridden, built, rendered, rfl, same⟩)
        · cases impossible
        cases outcome with
        | error failure => cases same
        | ok others =>
            cases same
            obtain ⟨last, batches, renders, rfl⟩ := ih.mp rendered
            exact ⟨last, first :: batches, .cons overridden built renders, rfl⟩
      · rintro ⟨last, batches, renders, rfl⟩
        cases renders with
        | cons overridden built later =>
            exact .inr ⟨_, _, _, _, _, .ok _, overridden, built, ih.mpr ⟨_, _, later, rfl⟩, rfl, rfl⟩

/-- Once some kustomizations were rendered and the next one fails, nothing else is asked. -/
theorem Renders.ends_of_failure {done rest : List String} {directory : String} {middle : FileTree}
    {batches : List (List String)} {breaking : Log} {failure : Kustomization.Failure}
    (renders : Renders context subscription root tree done log middle batches)
    (fails : FailsToRender context subscription root middle directory breaking failure) :
    Ends (render context subscription root tree (done ++ directory :: rest)).run (log ++ breaking)
      (.error failure) := by
  induction renders with
  | nil tree => exact render_cons_ends_iff.mpr (.inl ⟨failure, fails, rfl⟩)
  | cons overridden built later ih =>
      exact render_cons_ends_iff.mpr (.inr ⟨_, _, _, _, _, .error failure, overridden, built,
        ih fails, rfl, rfl⟩)

/-! ### What a checkout comes to -/

def chartsOf : Except ChartError ChartIndex → List Chart × List String
  | .ok index => (index.lastCharts, [])
  | .error error => ([], ["failed to generate helm index: " ++ error.message])

variable {options : CloneOptions} {classes : Classification} {path : String} {resolving : Log}

theorem draft_after_classify_iff {outcome : Except SyncError Draft}
    (resolved : Ends (resourcePath subscription options.directory).run resolving (.ok path))
    (classified : Manifest.classify tree path Manifest.hookDirectories = some classes) :
    Ends (draft context subscription options tree).run (resolving ++ log) outcome ↔
      ∃ rendering rendered rest, log = rendering ++ rest ∧
        Ends (render context subscription options.directory tree classes.kustomizations).run
          rendering rendered ∧
        let charts := chartsOf
          (ChartIndex.ofDirectories subscription tree options.directory classes.charts)
        match rendered with
        | .ok documents =>
          rest = [] ∧
            outcome = .ok ⟨path, gather context subscription options classes documents charts.1,
              charts.2⟩
        | .error failure =>
          ∃ error, Ends (abandon context subscription failure charts.2) rest error ∧
            outcome = .error error := by
  unfold draft
  refine Iff.trans (ends_run_bind_after_iff resolved) ?_
  simp only [classified]
  refine Iff.trans ends_run_lift_bind_iff ?_
  constructor
  · rintro ⟨rendering, rendered, rest, ended, concluded, rfl⟩
    refine ⟨rendering, rendered, rest, rfl, ended, ?_⟩
    cases rendered with
    | ok documents => exact ends_run_pure_iff.mp concluded
    | error failure =>
        obtain ⟨_, error, _, abandoned, thrown, rfl⟩ := ends_run_lift_bind_iff.mp concluded
        obtain ⟨rfl, rfl⟩ := ends_run_throw_iff.mp thrown
        rw [List.append_nil]
        exact ⟨error, abandoned, rfl⟩
  · rintro ⟨rendering, rendered, rest, rfl, ended, concluded⟩
    refine ⟨rendering, rendered, rest, ended, ?_, rfl⟩
    cases rendered with
    | ok documents => exact ends_run_pure_iff.mpr concluded
    | error failure =>
        obtain ⟨error, abandoned, rfl⟩ := concluded
        exact ends_run_lift_bind_iff.mpr ⟨rest, error, [], abandoned,
          ends_run_throw_iff.mpr ⟨rfl, rfl⟩, (List.append_nil rest).symm⟩

theorem draft_ok {draft : Draft}
    (ended : Ends (Assembly.draft context subscription options tree).run log (.ok draft)) :
    ∃ resolving rendering path classes last batches, log = resolving ++ rendering ∧
      Ends (resourcePath subscription options.directory).run resolving (.ok path) ∧
      Manifest.classify tree path Manifest.hookDirectories = some classes ∧
      Renders context subscription options.directory tree classes.kustomizations rendering last
        batches ∧
      let charts := chartsOf
        (ChartIndex.ofDirectories subscription tree options.directory classes.charts)
      draft = ⟨path, gather context subscription options classes batches.flatten charts.1,
        charts.2⟩ := by
  rcases ends_run_bind_iff.mp ended with ⟨_, _, impossible⟩ | ⟨resolving, path, rest, resolved, later, rfl⟩
  · cases impossible
  cases classified : Manifest.classify tree path Manifest.hookDirectories with
  | none =>
      simp only [classified] at later
      cases (ends_run_throw_iff.mp later).2
  | some classes =>
      obtain ⟨rendering, rendered, _, rfl, renderEnded, concluded⟩ :=
        (draft_after_classify_iff resolved classified).mp ended
      cases rendered with
      | error failure =>
          obtain ⟨_, _, impossible⟩ := concluded
          cases impossible
      | ok documents =>
          obtain ⟨rfl, same⟩ := concluded
          obtain ⟨last, batches, renders, rfl⟩ := render_ok_iff.mp renderEnded
          rw [List.append_nil]
          exact ⟨resolving, rendering, path, classes, last, batches, rfl, resolved, classified,
            renders, Except.ok.inj same⟩

/-! ### Giving up -/

def abandonment (failure : Kustomization.Failure) (others : List String) : SyncError :=
  .kustomization (", ".intercalate (failure.message :: others))

def abandonmentReport (context : Context) (failure : Kustomization.Failure)
    (others : List String) : String :=
  Text.truncate context.settings.messageLimit (abandonment failure others).message

theorem abandon_ends_iff {failure : Kustomization.Failure} {others : List String}
    {error : SyncError} :
    Ends (abandon context subscription failure others) log error ↔
      (∃ told : Except String Unit, log =
        [⟨.reportOverall subscription true (abandonmentReport context failure others), told⟩]) ∧
      error = abandonment failure others := by
  refine Iff.trans ends_bind_iff ?_
  constructor
  · rintro ⟨_, told, _, asked, last, rfl⟩
    obtain rfl := ends_ask_iff.mp asked
    obtain ⟨rfl, rfl⟩ := ends_pure_iff.mp last
    exact ⟨⟨told, rfl⟩, rfl⟩
  · rintro ⟨⟨told, rfl⟩, rfl⟩
    exact ⟨_, told, [], ends_ask_iff.mpr rfl, ends_pure_iff.mpr ⟨rfl, rfl⟩, rfl⟩

/-- Wherever the kustomization is that cannot be rendered, those before it were. `wrong` is what is
wrong with the charts. -/
inductive Breaks (context : Context) (subscription : Subscription) (options : CloneOptions)
    (tree : FileTree) : Log → Kustomization.Failure → List String → Prop where
  | intro {resolving rendering breaking : Log} {path directory : String} {classes : Classification}
      {done others : List String} {middle : FileTree} {batches : List (List String)}
      {failure : Kustomization.Failure}
      (resolved : Ends (resourcePath subscription options.directory).run resolving (.ok path))
      (classified : Manifest.classify tree path Manifest.hookDirectories = some classes)
      (listed : classes.kustomizations = done ++ directory :: others)
      (renders : Renders context subscription options.directory tree done rendering middle batches)
      (fails : FailsToRender context subscription options.directory middle directory breaking
        failure) :
      Breaks context subscription options tree (resolving ++ (rendering ++ breaking)) failure
        (chartsOf
          (ChartIndex.ofDirectories subscription tree options.directory classes.charts)).2

section

variable {failure : Kustomization.Failure} {wrong : List String} {rest : Log}

theorem Breaks.gathers (breaks : Breaks context subscription options tree log failure wrong) :
    ∀ entry ∈ log, Gathers entry.1 := by
  cases breaks with
  | @intro _ _ _ _ directory _ done others _ _ _ resolved classified listed renders fails =>
      have broke : Ends (render context subscription options.directory tree
          (done ++ directory :: others)).run _ (.error failure) := renders.ends_of_failure fails
      exact List.forall_mem_append.mpr
        ⟨only_history (only_resourcePath _) resolved, only_history (only_render _ _ _) broke⟩

/-- A failure to render is reported, and nothing else follows. -/
theorem draft_after_failure_iff {outcome : Except SyncError Draft}
    (breaks : Breaks context subscription options tree log failure wrong) :
    Ends (draft context subscription options tree).run (log ++ rest) outcome ↔
      (∃ told : Except String Unit, rest =
        [⟨.reportOverall subscription true (abandonmentReport context failure wrong), told⟩]) ∧
      outcome = .error (abandonment failure wrong) := by
  cases breaks with
  | @intro resolving rendering breaking _ directory classes done others _ _ _ resolved classified
      listed renders fails =>
      have broke : Ends (render context subscription options.directory tree
          (done ++ directory :: others)).run (rendering ++ breaking) (.error failure) :=
        renders.ends_of_failure fails
      rw [← listed] at broke
      rw [List.append_assoc, draft_after_classify_iff resolved classified]
      constructor
      · rintro ⟨asked, rendered, reporting, same, ended, concluded⟩
        -- Rendering ends in one way only, so the rest of the log is what giving up asks.
        obtain ⟨_, rfl, rfl⟩ := ends_unique broke ended same
        obtain ⟨error, abandoned, rfl⟩ := concluded
        obtain ⟨told, rfl⟩ := abandon_ends_iff.mp abandoned
        exact ⟨told, rfl⟩
      · rintro ⟨told, rfl⟩
        exact ⟨_, .error failure, rest, rfl, broke, _, abandon_ends_iff.mpr ⟨told, rfl⟩, rfl⟩

theorem deploy_after_failure_iff {wentWell : Bool} {outcome : Except SyncError Nat}
    (breaks : Breaks context subscription options tree log failure wrong) :
    Ends (deploy context subscription wentWell options tree).run (log ++ rest) outcome ↔
      (∃ told : Except String Unit, rest =
        [⟨.reportOverall subscription true (abandonmentReport context failure wrong), told⟩]) ∧
      outcome = .error (abandonment failure wrong) := by
  have continues : Continues (draft context subscription options tree).run log :=
    ⟨_, _, List.cons_ne_nil _ [], (draft_after_failure_iff breaks).mpr ⟨⟨.ok (), rfl⟩, rfl⟩⟩
  unfold deploy
  rw [ExceptT.run_bind, ends_bind_continues_iff continues]
  constructor
  · rintro ⟨early, drafted, late, ended, last, rfl⟩
    obtain ⟨⟨told, rfl⟩, rfl⟩ := (draft_after_failure_iff breaks).mp ended
    obtain ⟨rfl, rfl⟩ := ends_pure_iff.mp last
    exact ⟨⟨told, rfl⟩, rfl⟩
  · rintro ⟨⟨told, rfl⟩, rfl⟩
    exact ⟨_, _, [], (draft_after_failure_iff breaks).mpr ⟨⟨told, rfl⟩, rfl⟩,
      ends_pure_iff.mpr ⟨rfl, rfl⟩, (List.append_nil _).symm⟩

end

end GitDelivery.Assembly
