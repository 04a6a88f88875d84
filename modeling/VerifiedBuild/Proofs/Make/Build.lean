import VerifiedBuild.Proofs.Inputs.Partition
import VerifiedBuild.Proofs.Make.Orders
import VerifiedBuild.Proofs.Make.Places

/-!
# What is built

Which compiler line a run asks for. It is found from the configuration, the native inputs in the
order of the command line, and what the generator answered for the program that was read last; the
code that is compiled was put into its file right before. Native inputs take part only where all
program files form one program that is made as it is.
-/

namespace VerifiedBuild

variable {K : Toolkit} {collaborators : Collaborators K} {before there : Machine K}
  {others : List Source} {plan : BuildPlan} {config : Config} {first : Source}

/-! ## Native inputs -/

namespace Inputs

variable {store : Store} {snapshots : Bool} {paths : List String}

theorem pathsOfRole_nativeCode (paths : List String) :
    BuildPlan.pathsOfRole .nativeCode ((paths.filter (!isProgram ·)).map nativeOf) =
      paths.filter (Path.lowercaseExtension · ∈ [".cc", ".cpp"]) := by
  rw [BuildPlan.pathsOfRole, List.filter_map, List.map_map, List.filter_filter]
  have kept : (fun path => path) = (·.path) ∘ nativeOf := rfl
  rw [← kept, List.map_id']
  apply List.filter_congr
  intro path _
  by_cases source : Path.lowercaseExtension path ∈ [".cc", ".cpp"]
  · have other : isProgram path = false := by
      simp only [List.mem_cons, List.not_mem_nil, or_false] at source
      rcases source with named | named <;> simp [isProgram, named]
    simp [nativeOf, source, other]
  · simp [nativeOf, source]

theorem pathsOfRole_nativeLibrary (usable : ∀ path ∈ paths, IsUsable store snapshots path) :
    BuildPlan.pathsOfRole .nativeLibrary ((paths.filter (!isProgram ·)).map nativeOf) =
      paths.filter (Path.lowercaseExtension · ∈ [".a", ".so"]) := by
  rw [BuildPlan.pathsOfRole, List.filter_map, List.map_map, List.filter_filter]
  have kept : (fun path => path) = (·.path) ∘ nativeOf := rfl
  rw [← kept, List.map_id']
  apply List.filter_congr
  intro path member
  -- What is neither a program nor a source is a library, for lack of other inputs.
  have known : Path.lowercaseExtension path ∈ [".cc", ".cpp", ".a", ".so", ".prf"] := by
    rcases usable path member with native | ⟨program, -⟩
    · exact List.mem_append_left [".prf"] native
    · simp [program]
  simp only [List.mem_cons, List.not_mem_nil, or_false] at known
  rcases known with named | named | named | named | named <;> simp [nativeOf, isProgram, named]

end Inputs

/-- The native inputs with one of these extensions, as often as and in the order in which they are
given. They are left out if several programs are made one by one or if snapshots are looked for. -/
def Options.natives (options : Options) (extensions : List String) : List String :=
  let programs := options.inputs.filter Inputs.isProgram
  if options.config.separately ∧ programs.length > 1 ∨ options.config.snapshotLevel ≥ 0 then []
  else options.inputs.filter (Path.lowercaseExtension · ∈ extensions)

theorem Options.linked_sorted {options : Options} {store : Store}
    (accepted : (options.sorted store).refusal = none) :
    let inputs := options.sorted store
    let linked := options.config.linked inputs.programs inputs.others
    BuildPlan.pathsOfRole .nativeCode linked = options.natives [".cc", ".cpp"] ∧
      BuildPlan.pathsOfRole .nativeLibrary linked = options.natives [".a", ".so"] := by
  have sorts := Inputs.sorts_ofPaths store (decide (options.config.snapshotLevel ≥ 0))
    options.inputs
  have usable := sorts.accepts.mp accepted
  have all : Inputs.usable store (decide (options.config.snapshotLevel ≥ 0)) options.inputs =
      options.inputs := by
    rw [Inputs.usable, List.takeWhile_eq_self_iff]
    simpa using usable
  have programs := sorts.programs
  have others := sorts.others
  rw [all] at programs others
  have count : (options.sorted store).programs.length =
      (options.inputs.filter Inputs.isProgram).length := by
    rw [Options.sorted, programs, List.length_map]
  dsimp only
  rw [Config.linked, Options.natives, Options.natives, count]
  split
  · exact ⟨rfl, rfl⟩
  · rw [Options.sorted, others]
    exact ⟨Inputs.pathsOfRole_nativeCode _, Inputs.pathsOfRole_nativeLibrary usable⟩

/-! ## Compiler lines -/

/-- How the compiler is asked for a product: in this order, whatever the inputs are. -/
def compilerLine (config : Config) (hasEntryPoint : Bool) (output code : String)
    (sources libraries : List String) : List String :=
  [config.compiler, "-g", "-Wno-unused-label", "-Wno-unused-variable", "-Wno-self-assign",
    "-Wno-unreachable-code"] ++
  (if config.optimize then ["-O2", "-DPROOFC_USE_IMMUTABLE_COLLECTIONS"] else []) ++
  (if hasEntryPoint then [] else ["-shared", "-fPIC"]) ++
  ["-o", output] ++ [code] ++ sources ++
  (if config.linkRuntime then [runtimeLibrary config] else []) ++
  (if config.optimize then [collectionsLibrary config] else []) ++ libraries ++
  ["-lm"] ++ (if config.optimize then ["-lpthread"] else [])

theorem arguments_make (config : Config) (hasEntryPoint : Bool) (output code : String)
    (others : List Source) :
    (BuildPlan.make code hasEntryPoint output others config).arguments config.compiler =
      compilerLine config hasEntryPoint output code (BuildPlan.pathsOfRole .nativeCode others)
        (BuildPlan.pathsOfRole .nativeLibrary others) := by
  have names : "-l" ++ "m" = "-lm" ∧ "-l" ++ "pthread" = "-lpthread" := ⟨rfl, rfl⟩
  have library : (Product.ofEntryPoint hasEntryPoint = .library) ↔ hasEntryPoint = false := by
    cases hasEntryPoint <;> decide
  unfold BuildPlan.arguments BuildPlan.make compilerLine BuildPlan.commonOptions
  simp only [library]
  cases hasEntryPoint <;> cases config.optimize <;> simp [names]

/-! ## Products -/

/-- The product is named after `base`: an executable or a library, among the temporary files if it
is only built to be run, and else beside `base`. -/
structure BuildOrder.Names (order : BuildOrder) (config : Config) (base output : String) :
    Prop where
  stem : Path.stem output = Path.stem base
  extension : Path.extension output = if order.generation.hasEntryPoint then ".out" else ".so"
  temporary : config.runAfterwards → output =
    Path.join (order.host.temporaryDirectory config.scratchDirectory) (Path.fileName output)
  beside : config.runAfterwards = false → Path.parent output = Path.parent base

theorem names_outputPath (order : BuildOrder) (config : Config) {base : String}
    (named : Path.fileName base ≠ "") :
    order.Names config base
      (outputPath order.host config order.generation.hasEntryPoint base) := by
  obtain ⟨stem, extension⟩ :=
    parts_outputPath order.host config order.generation.hasEntryPoint named
  constructor
  case stem => exact stem
  case extension =>
    rw [extension]
    cases order.generation.hasEntryPoint <;> rfl
  case temporary =>
    intro runs
    rw [fileName_outputPath, outputPath, if_pos runs, ← Product.fileName_productPath]
  case beside =>
    intro runs
    have plain := isPlain_product (Product.ofEntryPoint order.generation.hasEntryPoint)
    rw [outputPath, runs, if_neg Bool.false_ne_true]
    exact Path.parent_withExtension named plain.slash plain.nonempty

/-! ## Runs -/

/-- After `past` a run has just looked at the host. It has read the program that begins with
`first`, translated and verified it, had its code generated without an error and put the code into a
file; nothing of the kind happened since. -/
def BuildOrder.Follows (order : BuildOrder) (config : Config) (first : Source)
    (past : List (Event K)) : Prop :=
  order.generation.IsComplete ∧ ∃ name rest program others examination front,
    past = front ++ [⟨.look, .ok order.host⟩, ⟨.startPhase .build, .ok ()⟩] ∧
    Event.deeds front =
      others ++ ⟨.call (.readProgram name (first :: rest)), .ok { program := some program }⟩ ::
        (examination ++ order.generation.saved config.target program order.place none) ∧
    ∀ event ∈ examination, event.request.IsExamination

theorem BuildOrder.Serves.follows {order : BuildOrder} {start : Machine K}
    {past : List (Event K)} (serves : order.Serves plan config first others start there)
    (begun : before.history <+: start.history) (split : there.history = before.history ++ past) :
    order.Follows config first past := by
  obtain ⟨name, rest, program, examination, asks, examines⟩ := serves
  obtain ⟨others, grown⟩ := begun
  obtain ⟨front, whole, deeds⟩ := asks.leads
  refine ⟨asks.complete, name, rest, program, Event.deeds others, examination, others ++ front, ?_,
    ?_, examines⟩
  · rw [split, ← grown, List.append_assoc, List.append_assoc] at whole
    rw [List.append_assoc]
    exact List.append_cancel_left whole
  · rw [Event.deeds, List.filter_append]
    exact congrArg (Event.deeds others ++ ·) deeds

theorem processInputs_asks {options : Options}
    (does : (processInputs options).Does collaborators before (Job.request (.call (.build plan)))
      there) :
    ∃ (order : BuildOrder) (first : Source) (start : Machine K) (linked : List Source),
      before.history <+: start.history ∧
      order.Serves plan options.config first linked start there ∧
      BuildPlan.pathsOfRole .nativeCode linked = options.natives [".cc", ".cpp"] ∧
      BuildPlan.pathsOfRole .nativeLibrary linked = options.natives [".a", ".so"] := by
  rw [processInputs_eq] at does
  obtain ⟨host, _, _, looks, rfl, does⟩ := does.after_request nofun
  unfold makeSorted at does
  split at does
  next =>
    obtain ⟨_, _, _, -, -, does⟩ := does.after_request nofun
    exact absurd does (Job.not_does_pure _)
  next accepted =>
    split at does
    next =>
      obtain ⟨_, _, _, -, -, does⟩ := does.after_request nofun
      exact absurd does (Job.not_does_pure _)
    next =>
      obtain ⟨_, _, _, restarts, rfl, does⟩ := does.after_request nofun
      obtain ⟨order, first, start, begun, serves⟩ := makeAll_asks does
      rw [restarts.history_eq, looks.history_eq] at begun
      have grown := (List.prefix_append _ _).trans ((List.prefix_append _ _).trans begun)
      exact ⟨order, first, start, _, grown, serves, Options.linked_sorted accepted⟩

/-- Every build of a run is asked for with the line that the configuration, the native inputs and
the generator's answer say, for code that was put into its file right before. -/
theorem processInputs_builds (collaborators : Collaborators K) (options : Options)
    (before : Machine K) :
    ∃ made, ((processInputs options).run collaborators before).2.history = before.history ++ made ∧
      ∀ earlier plan report later, made = earlier ++ ⟨.call (.build plan), report⟩ :: later →
        ∃ (order : BuildOrder) (first : Source),
          let base := options.config.outputName.getD first.path
          order.Follows options.config first earlier ∧
          plan.arguments options.config.compiler =
            compilerLine options.config order.generation.hasEntryPoint plan.output order.place
              (options.natives [".cc", ".cpp"]) (options.natives [".a", ".so"]) ∧
          (Path.fileName base ≠ "" → order.Names options.config base plan.output) := by
  obtain ⟨made, whole⟩ := Job.history_isPrefix_run collaborators (processInputs options) before
  refine ⟨made, whole.symm, ?_⟩
  rintro earlier plan report later rfl
  rw [← List.append_assoc] at whole
  obtain ⟨next, there, reaches, past⟩ := Job.exists_reaches whole.symm (by simp)
  obtain ⟨order, first, start, linked, begun, serves, sources, libraries⟩ :=
    processInputs_asks ⟨next, reaches⟩
  refine ⟨order, first, serves.follows begun past, ?_, fun named => ?_⟩
  · obtain ⟨_, _, _, _, asks, -⟩ := serves
    rw [asks.compiles, arguments_make, sources, libraries]
    rfl
  · obtain ⟨_, _, _, _, asks, -⟩ := serves
    rw [asks.compiles]
    exact names_outputPath order options.config named

namespace Rehearsal

def mixedOptions : Options where
  inputs := ["x.cc", "b.so", "a.prf", "y.CPP", "c.a", "x.cc"]
  config := { linkRuntime := true, runtimeDirectory := "lib" }

def mixedRun : Except Failure ExitStatus × Machine toolkit :=
  (processInputs mixedOptions).run (Rehearsal.collaborators { parts := [{ name := "A" }] })
    { host := { store := storeWith ["a.prf"] } }

end Rehearsal

theorem mixedRun_built :
    ∃ (plan : BuildPlan) (order : BuildOrder), .build plan ∈ Rehearsal.mixedRun.2.calls ∧
      plan.arguments "clang++" =
        compilerLine Rehearsal.mixedOptions.config order.generation.hasEntryPoint plan.output
          order.place ["x.cc", "y.CPP", "x.cc"] ["b.so", "c.a"] := by
  obtain ⟨made, whole, builds⟩ := processInputs_builds
    (Rehearsal.collaborators { parts := [{ name := "A" }] }) Rehearsal.mixedOptions
    { host := { store := Rehearsal.storeWith ["a.prf"] } }
  have sources : Rehearsal.mixedOptions.natives [".cc", ".cpp"] = ["x.cc", "y.CPP", "x.cc"] := by
    decide +kernel
  have libraries : Rehearsal.mixedOptions.natives [".a", ".so"] = ["b.so", "c.a"] := by
    decide +kernel
  have kinds : CallKind.build ∈ Rehearsal.mixedRun.2.calls.map Call.kind := by decide +kernel
  obtain ⟨toCall, called, kind⟩ := List.mem_map.mp kinds
  obtain ⟨event, member, asked⟩ := List.mem_filterMap.mp called
  have within : event ∈ made := by
    rw [List.nil_append] at whole
    rw [← whole]
    exact member
  obtain ⟨earlier, later, split⟩ := List.append_of_mem within
  cases toCall with
  | build plan =>
      obtain ⟨request, report⟩ := event
      cases request with
      | call other =>
          cases asked
          obtain ⟨order, first, -, line, -⟩ := builds earlier plan report later split
          rw [sources, libraries] at line
          exact ⟨plan, order, called, line⟩
      | _ => cases asked
  | _ => cases kind

end VerifiedBuild
