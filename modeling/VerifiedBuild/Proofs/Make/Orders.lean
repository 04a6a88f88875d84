import VerifiedBuild.Proofs.Make.CodeResult
import VerifiedBuild.Proofs.Make.Flat
import VerifiedBuild.Proofs.Make.Gate
import VerifiedBuild.Proofs.Requests

/-!
# Orders of builds

What leads to a build. When one is asked for, a program has been read, translated and verified, its
code has been generated without an error and is in a file, and nothing else was done since. The plan
is made from just that, and from the native files that are built with the programs of the run.
-/

namespace VerifiedBuild

variable {K : Toolkit} {α β : Type} {collaborators : Collaborators K}

def Event.deeds (events : List (Event K)) : List (Event K) :=
  events.filter (!·.request.isQuiet)

/-! ## Requests that come after -/

namespace Job

variable {job : Job K α} {next : α → Job K β} {before there : Machine K} {request : Request K}
  {requests : Request K → Prop} {failures : Failure → Prop}

theorem not_does_pure (value : α) :
    ¬(pure value : Job K α).Does collaborators before (Job.request request) there := by
  have idle : (pure value : Job K α).Confined (· ≠ request) fun _ => False := confined_pure value
  exact idle.not_does (· rfl)

theorem does_request {asked : Request K}
    (does : (Job.request asked).Does collaborators before (Job.request request) there) :
    request = asked ∧ there = before := by
  obtain ⟨next, reaches⟩ := does
  generalize point : Job.request request >>= next = rest at reaches
  cases reaches with
  | here =>
      injection point with same
      exact ⟨same, rfl⟩
  | ask answered later =>
      cases later
      cases point

/-- What the first of two jobs does not ask for is asked for after its end. -/
theorem Does.after (does : (job >>= next).Does collaborators before (Job.request request) there)
    (confined : job.Confined requests failures) (other : ¬requests request) :
    ∃ value deeds middle, job.Acts collaborators before value deeds middle ∧
      (next value).Does collaborators middle (Job.request request) there := by
  rcases does.of_bind with inFirst | ⟨value, middle, ended, inSecond⟩
  · exact absurd inFirst (confined.not_does other)
  · obtain ⟨deeds, acts⟩ := acts_of_run ended
    exact ⟨value, deeds, middle, acts, inSecond⟩

theorem Does.after_request {asked : Request K} {next : asked.Answer → Job K β}
    (does : (Job.request asked >>= next).Does collaborators before (Job.request request) there)
    (other : asked ≠ request) :
    ∃ answer deeds middle, (Job.request asked).Acts collaborators before answer deeds middle ∧
      deeds = (if asked.isQuiet then [] else [⟨asked, .ok answer⟩]) ∧
      (next answer).Does collaborators middle (Job.request request) there := by
  have apart : (Job.request asked).Confined (· ≠ request) fun _ => False := confined_request other
  obtain ⟨answer, deeds, middle, acts, later⟩ := does.after apart (· rfl)
  exact ⟨answer, deeds, middle, acts, (acts_request.mp acts).2, later⟩

theorem Acts.history_eq {asked : Request K} {answer : asked.Answer} {deeds : List (Event K)}
    {after : Machine K}
    (acts : (Job.request asked).Acts collaborators before answer deeds after) :
    after.history = before.history ++ [⟨asked, .ok answer⟩] := by
  have grown := before.history_perform collaborators asked
  rw [run_request_ok.mp acts.ends] at grown
  exact grown

theorem Does.first (does : (job >>= next).Does collaborators before (Job.request request) there)
    (confined : ∀ value, (next value).Confined requests failures) (other : ¬requests request) :
    job.Does collaborators before (Job.request request) there := by
  rcases does.of_bind with inFirst | ⟨value, middle, -, inSecond⟩
  · exact inFirst
  · exact absurd inSecond ((confined value).not_does other)

theorem Acts.history {value : α} {deeds : List (Event K)} {after : Machine K}
    (acts : job.Acts collaborators before value deeds after) :
    ∃ own, after.history = before.history ++ own ∧ Event.deeds own = deeds := by
  obtain ⟨own, grown⟩ := history_isPrefix_run collaborators job before
  rw [acts.ends] at grown
  dsimp only at grown
  have added := acts.adds
  rw [Machine.deeds, ← grown, List.filter_append] at added
  exact ⟨own, grown.symm, List.append_cancel_left added⟩

theorem Acts.confined {value : α} {deeds : List (Event K)} {after : Machine K}
    (acts : job.Acts collaborators before value deeds after)
    (confined : job.Confined requests failures) : ∀ event ∈ deeds, requests event.request := by
  obtain ⟨own, grown, rfl⟩ := acts.history
  obtain ⟨added, whole, allowed⟩ := confined.history collaborators before
  rw [acts.ends] at whole
  obtain rfl := List.append_cancel_left (grown.symm.trans whole)
  exact fun event member => allowed event (List.mem_filter.mp member).1

end Job

/-! ## What leads to a build -/

/-- From one machine to another `deeds` are done; then the host is looked at, right before a build
is asked for. -/
def Machine.Leads (before there : Machine K) (deeds : List (Event K)) (host : Host) : Prop :=
  ∃ front, there.history =
      before.history ++ front ++ [⟨.look, .ok host⟩, ⟨.startPhase .build, .ok ()⟩] ∧
    Event.deeds front = deeds

variable {before there : Machine K} {host : Host} {deeds : List (Event K)}

theorem Job.Acts.leads {job : Job K α} {value : α} {first : List (Event K)} {middle : Machine K}
    (acts : job.Acts collaborators before value first middle)
    (leads : middle.Leads there deeds host) : before.Leads there (first ++ deeds) host := by
  obtain ⟨front, whole, rfl⟩ := leads
  obtain ⟨own, grown, rfl⟩ := acts.history
  refine ⟨own ++ front, ?_, List.filter_append _ _⟩
  rw [whole, grown, List.append_assoc before.history own front]

/-! ## One program -/

variable {config : Config} {program : K.Program} {others : List Source} {plan : BuildPlan}
  {base path text : String}

/-- The plan is for code in the file `path`, and the product for the host that was looked at. -/
def BuildPlan.Compiles (plan : BuildPlan) (config : Config) (base path : String)
    (hasEntryPoint : Bool) (others : List Source) (host : Host) : Prop :=
  plan = .make path hasEntryPoint (outputPath host config hasEntryPoint base) others config

theorem buildCounted_asks {other : BuildPlan}
    (does : (buildCounted other).Does collaborators before (Job.request (.call (.build plan)))
      there) :
    plan = other ∧ there.history = before.history ++ [⟨.startPhase .build, .ok ()⟩] := by
  have counts (built : BuildReport) : (do
      if built.ok then Job.countOne "native.builds"
      pure built : Job K BuildReport).Confined (· ≠ .call (.build plan)) fun _ => False := by
    split
    · exact .bind (Job.confined_request nofun) fun _ => Job.confined_pure built
    · exact Job.confined_pure built
  have timed := does.first counts (· rfl)
  obtain ⟨_, _, middle, started, -, within⟩ := timed.after_request nofun
  have stops (built : BuildReport) : (do
      Job.request .stopPhase
      pure built : Job K BuildReport).Confined (· ≠ .call (.build plan)) fun _ => False :=
    .bind (Job.confined_request nofun) fun _ => Job.confined_pure built
  obtain ⟨same, rfl⟩ := Job.does_request (within.first stops (· rfl))
  cases same
  exact ⟨rfl, started.history_eq⟩

theorem buildProduct_asks {hasEntryPoint : Bool}
    (does : (buildProduct config path hasEntryPoint base others).Does collaborators before
      (Job.request (.call (.build plan))) there) :
    ∃ host, plan.Compiles config base path hasEntryPoint others host ∧
      before.Leads there [] host := by
  rw [buildProduct_eq] at does
  obtain ⟨host, _, middle, looked, rfl, builds⟩ := does.after_request nofun
  obtain ⟨rfl, started⟩ :=
    buildCounted_asks (builds.first (confined_finishBuilt _ _) Bool.false_ne_true)
  refine ⟨host, rfl, [], ?_, rfl⟩
  rw [started, looked.history_eq, List.append_assoc, List.append_nil]
  rfl

/-! ### Generated code -/

variable {wantsBuild : Bool} {generated : Generated} {kept : Option String}

theorem storeCode_leaves {next : Bool → Job K CodeResult}
    (does : (storeCode path text >>= next).Does collaborators before
      (Job.request (.call (.build plan))) there)
    (idle : ∀ middle : Machine K, ¬(next false).Does collaborators middle
      (Job.request (.call (.build plan))) there) :
    ∃ middle, (storeCode path text).Acts collaborators before true
        [⟨.saveFile path text, .ok none⟩] middle ∧
      (next true).Does collaborators middle (Job.request (.call (.build plan))) there := by
  obtain ⟨stored, _, middle, acts, rest⟩ := does.after (confined_storeCode path text) (· rfl)
  obtain ⟨error, rfl, rfl⟩ := storeCode_acts acts
  cases error with
  | some error => exact absurd rest (idle middle)
  | none => exact ⟨middle, acts, rest⟩

theorem finishGenerated_asks
    (does : (finishGenerated config base others wantsBuild generated kept).Does collaborators before
      (Job.request (.call (.build plan))) there) :
    generated.complete ∧ ∃ place host,
      plan.Compiles config base place generated.hasEntryPoint others host ∧
      (kept = some place ∧ before.Leads there [] host ∨
        kept = none ∧
          before.Leads there [⟨.saveFile place generated.text, .ok none⟩] host) := by
  unfold finishGenerated at does
  dsimp only at does
  split at does
  next => exact absurd does (Job.not_does_pure _)
  next whole =>
    refine ⟨by simpa using whole, ?_⟩
    split at does
    next => exact absurd does (Job.not_does_pure _)
    split at does
    next => exact absurd does (Job.not_does_pure _)
    cases kept with
    | some place =>
        obtain ⟨host, compiles, leads⟩ := buildProduct_asks does
        exact ⟨place, host, compiles, .inl ⟨rfl, leads⟩⟩
    | none =>
        obtain ⟨looked, _, _, looks, rfl, does⟩ := does.after_request nofun
        obtain ⟨_, stores, builds⟩ := storeCode_leaves does fun _ => Job.not_does_pure _
        obtain ⟨host, compiles, leads⟩ := buildProduct_asks builds
        exact ⟨_, host, compiles, .inr ⟨rfl, looks.leads (stores.leads leads)⟩⟩

/-- What a build is asked for with: the code that was generated, the file that holds it, and the
host for which the product is named. -/
structure BuildOrder where
  generation : Generation
  place : String
  host : Host

/-- The plan carries out the order. From `before` it came to this by the deeds `earlier`, and then
the generation of the code for `program`, without an error, and its file. -/
structure BuildOrder.Asks (order : BuildOrder) (plan : BuildPlan) (config : Config) (base : String)
    (others : List Source) (program : K.Program) (before there : Machine K)
    (earlier : List (Event K)) : Prop where
  complete : order.generation.IsComplete
  compiles :
    plan.Compiles config base order.place order.generation.hasEntryPoint others order.host
  leads : before.Leads there
    (earlier ++ order.generation.saved config.target program order.place none) order.host

theorem BuildOrder.Asks.after {order : BuildOrder} {first earlier : List (Event K)}
    {middle : Machine K} {job : Job K α} {value : α}
    (acts : job.Acts collaborators before value first middle)
    (asks : order.Asks plan config base others program middle there earlier) :
    order.Asks plan config base others program before there (first ++ earlier) := by
  refine ⟨asks.complete, asks.compiles, ?_⟩
  rw [List.append_assoc]
  exact acts.leads asks.leads

theorem generateCode_asks
    (does : (generateCode config program base others wantsBuild).Does collaborators before
      (Job.request (.call (.build plan))) there) :
    ∃ order : BuildOrder, order.Asks plan config base others program before there [] := by
  obtain ⟨provided, _, _, provides, rfl, does⟩ := does.after_request nofun
  split at does
  next =>
    obtain ⟨_, _, _, -, -, does⟩ := does.after_request nofun
    exact absurd does (Job.not_does_pure _)
  next able =>
    obtain rfl : provided = true := by simpa using able
    obtain ⟨generated, _, ready, generates, does⟩ := does.after (confined_generate _ _) (· rfl)
    obtain ⟨generation, steps, entry, text, complete⟩ := generate_acts generates
    have ordered {place : String} {host : Host} (whole : generated.complete)
        (compiles : plan.Compiles config base place generated.hasEntryPoint others host)
        (leads : ready.Leads there [⟨.saveFile place generated.text, .ok none⟩] host) :
        ∃ order : BuildOrder, order.Asks plan config base others program before there [] := by
      rw [← entry] at compiles
      refine ⟨⟨generation, place, host⟩, complete.mp whole, compiles, ?_⟩
      rw [List.nil_append, Generation.saved, steps, text]
      exact provides.leads (generates.leads leads)
    -- Code that is kept is in its file before the build; else it gets a file for the build.
    split at does
    next =>
      obtain ⟨_, stores, does⟩ := storeCode_leaves does fun _ => Job.not_does_pure _
      obtain ⟨_, _, _, notes, rfl, does⟩ := does.after_request nofun
      obtain ⟨whole, place, host, compiles, ⟨same, leads⟩ | ⟨none, -⟩⟩ := finishGenerated_asks does
      · cases same
        exact ordered whole compiles (stores.leads (notes.leads leads))
      · cases none
    next =>
      obtain ⟨whole, place, host, compiles, ⟨same, -⟩ | ⟨-, leads⟩⟩ := finishGenerated_asks does
      · cases same
      · exact ordered whole compiles leads

theorem concludeProgram_asks {outcome : Outcome} {byUnit : NameMap Statistics} {verified : Bool}
    (does : (concludeProgram config outcome byUnit program verified base others).Does collaborators
      before (Job.request (.call (.build plan))) there) :
    ∃ order : BuildOrder, order.Asks plan config base others program before there [] := by
  unfold concludeProgram at does
  split at does
  next => exact absurd does (Job.not_does_pure _)
  next =>
    obtain ⟨_, _, _, writes, rfl, does⟩ := does.after_request nofun
    split at does
    · obtain ⟨order, asks⟩ := generateCode_asks does
      exact ⟨order, asks.after writes⟩
    · obtain ⟨order, asks⟩ := generateCode_asks does
      exact ⟨order, asks.after writes⟩
    · exact absurd does (Job.not_does_pure _)

/-! ## Whole programs -/

variable {files : List Source} {first last : Source} {lineage : Option String}

/-- The requests for a program before code is generated for it. -/
def Request.IsExamination (request : Request K) : Prop :=
  request.Plain fun toCall => toCall.isTranslation ∨ toCall.isEngine

theorem verifyAndCompile_asks
    (does : (verifyAndCompile config program first last others lineage).Does collaborators before
      (Job.request (.call (.build plan))) there) :
    ∃ (order : BuildOrder) (examination : List (Event K)),
      order.Asks plan config (config.outputName.getD first.path) others program before there
        examination ∧
      ∀ event ∈ examination, event.request.IsExamination := by
  obtain ⟨units, translation, _, translates, does⟩ :=
    does.after confined_translateUnits Bool.false_ne_true
  obtain ⟨aggregate, verification, _, verifies, does⟩ :=
    does.after confined_verifyAll Bool.false_ne_true
  have ends (compiled : CodeResult) : (pure (ExitStatus.ofResults aggregate.verified
      compiled.status.isFulfilled (compiled.status = .unwritten)) : Job K ExitStatus).Confined
      (· ≠ .call (.build plan)) fun _ => False := Job.confined_pure _
  obtain ⟨order, asks⟩ := concludeProgram_asks (does.first ends (· rfl))
  refine ⟨order, translation ++ verification, ?_, ?_⟩
  · rw [← List.append_nil verification]
    exact (asks.after verifies).after translates
  · intro event member
    rcases List.mem_append.mp member with translating | verifying
    · exact (translates.confined confined_translateUnits event translating).mono fun _ => .inl
    · exact (verifies.confined confined_verifyAll event verifying).mono fun _ => .inr

theorem makeParsed_asks
    (does : (makeParsed config program first last others lineage).Does collaborators before
      (Job.request (.call (.build plan))) there) :
    ∃ (order : BuildOrder) (examination : List (Event K)),
      order.Asks plan config (config.outputName.getD first.path) others program before there
        examination ∧
      ∀ event ∈ examination, event.request.IsExamination := by
  have reports (status : ExitStatus) : (do
      printReports config program
      pure status : Job K ExitStatus).Confined (Request.Plain (·.isShow)) fun _ => False :=
    confined_printReports.bind fun _ => Job.confined_pure status
  have judges := does.first reports Bool.false_ne_true
  unfold judgeProgram at judges
  split at judges
  · exact verifyAndCompile_asks judges
  · exact absurd judges (Job.not_does_pure _)

/-- A build is asked for with the code of the program that was read last. -/
def BuildOrder.Serves (order : BuildOrder) (plan : BuildPlan) (config : Config) (first : Source)
    (others : List Source) (before there : Machine K) : Prop :=
  ∃ name rest program examination,
    order.Asks plan config (config.outputName.getD first.path) others program before there
      (⟨.call (.readProgram name (first :: rest)), .ok { program := some program }⟩ ::
        examination) ∧
    ∀ event ∈ examination, event.request.IsExamination

theorem makeProgram_asks
    (does : (makeProgram config files others lineage).Does collaborators before
      (Job.request (.call (.build plan))) there) :
    ∃ (order : BuildOrder) (first : Source),
      order.Serves plan config first others before there := by
  cases files with
  | nil =>
      obtain ⟨_, reaches⟩ := does
      cases reaches
  | cons first rest =>
      obtain ⟨⟨parsed, error⟩, _, _, reads, rfl, does⟩ := does.after_request nofun
      cases error with
      | some error =>
          obtain ⟨_, _, _, -, -, does⟩ := does.after_request nofun
          exact absurd does (Job.not_does_pure _)
      | none =>
          cases parsed with
          | none => exact absurd does (Job.not_does_pure _)
          | some program =>
              obtain ⟨order, examination, asks, examines⟩ := makeParsed_asks does
              exact ⟨order, first, jointName (first :: rest), rest, program, examination,
                asks.after reads, examines⟩

/-! ## Native files -/

def Request.isBuild : Request K → Prop
  | .call (.build _) => True
  | _ => False

/-- The native files that the programs of a run are built with. -/
def Config.linked (config : Config) (files others : List Source) : List Source :=
  if config.separately ∧ files.length > 1 ∨ config.snapshotLevel ≥ 0 then [] else others

def makeWith (config : Config) (others : List Source)
    (task : { task : Task // task.others = others }) : Job K ExitStatus :=
  task.1.make config

theorem delegates_makeProgram_builds :
    (makeProgram config files others lineage).Delegates collaborators Request.isBuild
      (makeWith config others) := by
  let task : { task : Task // task.others = others } := ⟨⟨files, others, lineage⟩, rfl⟩
  have own : (makeWith config others task : Job K ExitStatus).Delegates collaborators
      Request.isBuild (makeWith config others) := Job.delegates_part task
  exact own

theorem delegates_makeTogether_builds :
    (makeTogether config files others true lineage).Delegates collaborators Request.isBuild
      (makeWith config (if config.snapshotLevel ≥ 0 then [] else others)) := by
  unfold makeTogether
  by_cases snapshots : config.snapshotLevel ≥ 0
  · rw [if_pos snapshots, if_pos ⟨snapshots, rfl⟩]
    refine (Job.delegates_request id).bind fun host => ?_
    apply Job.delegates_foldlM
    intro status group _
    exact delegates_makeProgram_builds.bind fun _ => Job.delegates_pure _
  · rw [if_neg snapshots, if_neg fun both => snapshots both.1]
    exact delegates_makeProgram_builds

theorem delegates_makeAll_builds :
    (makeAll config files others).Delegates collaborators Request.isBuild
      (makeWith config (config.linked files others)) := by
  unfold makeAll makeFiles Config.linked
  by_cases apart : config.separately ∧ files.length > 1
  · rw [if_pos apart, if_pos (.inl apart)]
    apply Job.delegates_foldlM
    intro status file _
    -- A file that is made on its own gets no native files, with or without snapshots.
    have together : (makeTogether config [file] [] true (some file.path)).Delegates collaborators
        Request.isBuild (makeWith config (if config.snapshotLevel ≥ 0 then [] else [])) :=
      delegates_makeTogether_builds
    rw [ite_self] at together
    exact Job.Delegates.bind ((Job.delegates_request id).bind fun _ =>
      (Job.delegates_request id).bind fun _ => together) fun _ => Job.delegates_pure _
  · rw [if_neg apart, if_congr (or_iff_right apart) rfl rfl]
    exact delegates_makeTogether_builds

theorem makeAll_asks
    (does : (makeAll config files others).Does collaborators before
      (Job.request (.call (.build plan))) there) :
    ∃ (order : BuildOrder) (first : Source) (start : Machine K),
      before.history <+: start.history ∧
      order.Serves plan config first (config.linked files others) start there := by
  have kind : Request.isBuild (K := K) (.call (.build plan)) := trivial
  obtain ⟨⟨task, same⟩, start, ⟨_, reaches⟩, builds⟩ := delegates_makeAll_builds kind does
  obtain ⟨order, first, serves⟩ := makeProgram_asks builds
  rw [same] at serves
  exact ⟨order, first, start, reaches.history_isPrefix, serves⟩

end VerifiedBuild
