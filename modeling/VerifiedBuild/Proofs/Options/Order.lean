import VerifiedBuild.Proofs.Options.Grammar

/-!
# When the order of tokens matters

Each option is told by the last token of its family, and a list by all tokens of its family. So the
order of tokens matters within a family only, and empty tokens do not matter at all.
-/

namespace VerifiedBuild.Options

/-! ## Families of tokens -/

/-- A token as a member of its family: the name up to the equals sign, with the value after it. All
tokens without a dash are in one family, without a name. -/
structure Entry where
  family : String
  value : Option String

def entryOf? (token : String) : Option Entry :=
  if token = "" then none
  else if token.toList.head? ≠ some '-' then some ⟨"", some token⟩
  else match splitValue? token with
    | none => some ⟨token, none⟩
    | some (name, value) => some ⟨name, some value⟩

def familyOf? (token : String) : Option String :=
  (entryOf? token).map (·.family)

def entriesOf (tokens : List String) : List Entry :=
  tokens.filterMap entryOf?

def lastOf (entries : List Entry) (family : String) : Option Entry :=
  (entries.filter (·.family = family)).getLast?

def valuesOf (entries : List Entry) (family : String) : List String :=
  (entries.filter (·.family = family)).filterMap (·.value)

/-- The tokens of each family are the same, in the same order. -/
def SameFamilies (first second : List String) : Prop :=
  ∀ family, first.filter (familyOf? · = some family) = second.filter (familyOf? · = some family)

/-! ## What the tokens of all families tell -/

/-- The options that tokens tell, inputs apart. -/
def told (entries : List Entry) : Options :=
  let has family := (lastOf entries family).isSome
  let value? family := (lastOf entries family).bind (·.value)
  { pluginFile := (value? "--toolchain").getD ""
    logFile := (value? "--diag-log").getD ""
    stackSize := ((value? "--stack-size").bind Text.integer?).elim 268435456 Int.toNat
    wantsHelp := has "-h" || has "--help"
    noBanner := has "--nologo"
    echoArguments := has "--show-env"
    metrics := has "--metrics"
    reportFormat := if value? "--metrics" = some "json" then .json else .text
    config :=
      { verify := !has "--no-verify"
        noResolve := has "--no-resolve"
        noTypecheck := has "--no-typecheck"
        separately := has "--verify-separately"
        snapshotLevel := ((value? "--verify-snapshots").bind Text.integer?).getD (-1)
        reportUnits := has "--separate-module-output"
        conditionsFile := value? "--print-vc"
        scratchDirectory := (value? "--dump-dir").getD ""
        procedures := valuesOf entries "--proc"
        compile := value? "--compile" ≠ some "0"
        force := has "--force-compile"
        runAfterwards := has "--run"
        spillLevel := ((value? "--spill").bind Text.integer?).getD 0
        target := ((value? "--target").bind Target.ofName?).getD .cpp
        outputName := value? "--out"
        optimize := has "--optimize"
        linkRuntime := has "--runtime-lib"
        runtimeDirectory := (value? "--runtime-lib-dir").getD ""
        compiler := (value? "--cxx").getD "clang++"
        countErrors := value? "--count-verification-errors" ≠ some "0"
        showStatistics := has "--print-stats"
        showCallGraph := has "--print-call-graph" } }

def isPositional (token : String) : Bool :=
  token ≠ "" ∧ token.toList.head? ≠ some '-'

/-- The options that a command line tells by the tokens before and after the mark. -/
def declared (arguments before after : List String) : Options :=
  { told (entriesOf before) with
    arguments
    inputs := before.filter isPositional ++ after.filter (· ≠ "") }

/-! ## One more token -/

@[simp] theorem lastOf_append (entries : List Entry) (entry : Entry) (family : String) :
    lastOf (entries ++ [entry]) family =
      if entry.family = family then some entry else lastOf entries family := by
  by_cases same : entry.family = family
  · simp [lastOf, same]
  · simp [lastOf, same]

@[simp] theorem valuesOf_append (entries : List Entry) (entry : Entry) (family : String) :
    valuesOf (entries ++ [entry]) family =
      valuesOf entries family ++ if entry.family = family then entry.value.toList else [] := by
  by_cases same : entry.family = family
  · cases known : entry.value <;> simp [valuesOf, same, known]
  · simp [valuesOf, same]

theorem entriesOf_append (tokens : List String) (token : String) :
    entriesOf (tokens ++ [token]) = entriesOf tokens ++ (entryOf? token).toList := by
  cases known : entryOf? token <;> simp [entriesOf, known]

theorem entryOf?_plain {token : String} (dashed : token.toList.head? = some '-')
    (plain : '=' ∉ token.toList) : entryOf? token = some ⟨token, none⟩ := by
  have nonempty : token ≠ "" := by
    rintro rfl
    simp at dashed
  simp [entryOf?, nonempty, dashed, splitValue?_plain plain]

theorem entryOf?_valued {name : String} (dashed : name.toList.head? = some '-')
    (plain : '=' ∉ name.toList) (value : String) :
    entryOf? (name ++ "=" ++ value) = some ⟨name, some value⟩ := by
  have stillDashed : (name ++ "=" ++ value).toList.head? = some '-' := by simp [dashed]
  have nonempty : name ++ "=" ++ value ≠ "" := by
    intro empty
    rw [empty] at stillDashed
    simp at stillDashed
  rw [entryOf?, if_neg nonempty, if_neg (fun other => other stillDashed), splitValue?_valued plain]

theorem told_append_switch (entries : List Entry) (arguments inputs : List String)
    {entry : String × Directive} (listed : entry ∈ switches) :
    { told (entries ++ [⟨entry.1, none⟩]) with arguments, inputs } =
      apply { told entries with arguments, inputs } entry.2 := by
  simp only [switches, List.mem_cons, List.not_mem_nil, or_false] at listed
  rcases listed with rfl | rfl | rfl | rfl | rfl | rfl | rfl | rfl | rfl | rfl | rfl | rfl | rfl
  all_goals simp [told, apply, configure]

theorem of_flag? {value : String} {on : Bool} (read : flag? value = some on) :
    decide (value = "0") = !on := by
  rw [flag?] at read
  split_ifs at read with one zero
  · cases read
    simp [one]
  · cases read
    simp [zero]

theorem told_append_valued (entries : List Entry) (arguments inputs : List String)
    {option : ValueOption} {value : String} {directive : Directive}
    (listed : option ∈ valueOptions) (read : option.read value = some directive) :
    { told (entries ++ [⟨option.name, some value⟩]) with arguments, inputs } =
      apply { told entries with arguments, inputs } directive := by
  simp only [valueOptions, List.mem_cons, List.not_mem_nil, or_false] at listed
  rcases listed with rfl | rfl | rfl | rfl | rfl | rfl | rfl | rfl | rfl | rfl | rfl | rfl | rfl |
    rfl
  -- A text is taken as it is. The others are left, in the order of the table.
  all_goals try (cases read; simp [told, apply, configure])
  all_goals obtain ⟨_, known, rfl⟩ := Option.map_eq_some_iff.mp read
  · simp [told, apply, Text.integer?_of_boundedInteger? known]
  · simp [told, apply, configure, Text.integer?_of_boundedInteger? known]
  · simp [told, apply, configure, of_flag? known]
  · simp [told, apply, configure, Text.integer?_of_boundedInteger? known]
  · simp [told, apply, configure, known]
  · simp [told, apply, configure, of_flag? known]

theorem declared_append_dashed (arguments before : List String) {token : String} {entry : Entry}
    {directive : Directive} (known : entryOf? token = some entry)
    (dashed : token.toList.head? = some '-')
    (tells : ∀ inputs, { told (entriesOf before ++ [entry]) with arguments, inputs } =
      apply { told (entriesOf before) with arguments, inputs } directive) :
    declared arguments (before ++ [token]) [] =
      (declared arguments before []).apply directive := by
  have positional : (before ++ [token]).filter isPositional = before.filter isPositional := by
    simp [isPositional, dashed]
  rw [declared, declared, ← tells, positional, entriesOf_append, known]
  rfl

/-- One more token changes what is declared as its directive does. -/
theorem declared_append (arguments before : List String) {token : String} {directive : Directive}
    (means : Means token directive) :
    declared arguments (before ++ [token]) [] =
      (declared arguments before []).apply directive := by
  cases means with
  | nothing => simp [declared, entriesOf_append, entryOf?, isPositional, apply]
  | input nonempty undashed =>
      have known : entryOf? token = some ⟨"", some token⟩ := by simp [entryOf?, nonempty, undashed]
      simp [declared, told, entriesOf_append, known, isPositional, nonempty, undashed, apply]
  | help named =>
      have dashed : token.toList.head? = some '-' := by rcases named with rfl | rfl <;> rfl
      have plain : '=' ∉ token.toList := by rcases named with rfl | rfl <;> decide
      apply declared_append_dashed arguments before (entryOf?_plain dashed plain) dashed
      rcases named with rfl | rfl <;> simp [told, apply]
  | metrics =>
      apply declared_append_dashed arguments before (entryOf?_plain rfl (by decide)) rfl
      simp [told, apply]
  | @format text _ known =>
      apply declared_append_dashed arguments before (entryOf?_valued rfl (by decide) text)
        (by simp)
      rcases known with ⟨rfl, rfl⟩ | ⟨rfl, rfl⟩ <;> simp [told, apply]
  | switch listed =>
      have dashed := dashed_of_switch listed
      exact declared_append_dashed arguments before (entryOf?_plain dashed (plain_of_switch listed))
        dashed fun inputs => told_append_switch _ arguments inputs listed
  | @valued option value _ listed nonempty read =>
      have dashed := dashed_of_valueOption listed
      exact declared_append_dashed arguments before
        (entryOf?_valued dashed (plain_of_valueOption listed) value) (by simp [dashed])
        fun inputs => told_append_valued _ arguments inputs listed read

theorem foldl_declared (arguments before : List String) {later : List String}
    {directives : List Directive} (means : List.Forall₂ Means later directives) :
    directives.foldl apply (declared arguments before []) =
      declared arguments (before ++ later) [] := by
  induction means generalizing before with
  | nil => rw [List.foldl_nil, List.append_nil]
  | cons first _ ih =>
      rw [List.foldl_cons, ← declared_append arguments before first, ih, List.append_assoc,
        List.singleton_append]

theorem declared_nil (arguments : List String) : declared arguments [] [] = { arguments } :=
  rfl

theorem declared_after (arguments before after : List String) :
    declared arguments before after =
      { declared arguments before [] with
        inputs := (declared arguments before []).inputs ++ after.filter (· ≠ "") } := by
  simp [declared]

theorem options_of_accepted {tokens : List String} (accepted : (parse tokens).complaint = none) :
    (parse tokens).options =
      declared (tokens.drop 1) (beforeMark (tokens.drop 1)) (afterMark (tokens.drop 1)) := by
  obtain ⟨earlier, directives, rest, split, means, final⟩ := exists_course (tokens.drop 1)
  have taken : directives.foldl apply { arguments := tokens.drop 1 } =
      declared (tokens.drop 1) earlier [] := by
    rw [← declared_nil, foldl_declared _ _ means, List.nil_append]
  have before : beforeMark (tokens.drop 1) = earlier ++ beforeMark rest := by
    rw [split, beforeMark_append means]
  have after : afterMark (tokens.drop 1) = afterMark rest := by
    rw [split, afterMark_append means]
  rw [parse_eq_of_split split means, taken] at accepted ⊢
  rw [before, after]
  cases final with
  | nothing => rw [readTokens, beforeMark_nil, afterMark_nil, List.append_nil]
  | mark marked =>
      rw [readTokens_mark, beforeMark_mark, afterMark_mark, List.append_nil,
        declared_after _ _ marked]
  | refused read later =>
      rw [readTokens_refused _ read] at accepted
      cases accepted

/-! ## Tokens of the same families -/

theorem entriesOf_filter (tokens : List String) (family : String) :
    (entriesOf tokens).filter (·.family = family) =
      entriesOf (tokens.filter (familyOf? · = some family)) := by
  rw [entriesOf, entriesOf, List.filter_filterMap, List.filterMap_filter]
  congr
  funext token
  cases known : entryOf? token <;> simp [familyOf?, known, Option.filter]

theorem SameFamilies.told_eq {first second : List String} (same : SameFamilies first second) :
    told (entriesOf first) = told (entriesOf second) := by
  have members (family : String) : (entriesOf first).filter (·.family = family) =
      (entriesOf second).filter (·.family = family) := by
    rw [entriesOf_filter, entriesOf_filter, same family]
  have last : lastOf (entriesOf first) = lastOf (entriesOf second) := by
    funext family
    rw [lastOf, lastOf, members]
  have values : valuesOf (entriesOf first) = valuesOf (entriesOf second) := by
    funext family
    rw [valuesOf, valuesOf, members]
  rw [told, told, last, values]

theorem familyOf?_of_dashed {token : String} (dashed : token.toList.head? = some '-') :
    ∃ family, familyOf? token = some family ∧ family ≠ "" := by
  rcases plain_or_valued token with plain | ⟨name, value, plain, rfl⟩
  · refine ⟨token, by simp [familyOf?, entryOf?_plain dashed plain], ?_⟩
    rintro rfl
    simp at dashed
  · have nonempty : name ≠ "" := by
      rintro rfl
      simp at dashed
    have nameDashed : name.toList.head? = some '-' := by
      cases chars : name.toList with
      | nil => exact absurd (String.toList_eq_nil_iff.mp chars) nonempty
      | cons first others => simpa [chars] using dashed
    exact ⟨name, by simp [familyOf?, entryOf?_valued nameDashed plain], nonempty⟩

theorem isPositional_iff {token : String} : isPositional token ↔ familyOf? token = some "" := by
  by_cases empty : token = ""
  · simp [isPositional, familyOf?, entryOf?, empty]
  · by_cases dashed : token.toList.head? = some '-'
    · obtain ⟨family, member, nonempty⟩ := familyOf?_of_dashed dashed
      simp [isPositional, dashed, member, nonempty]
    · simp [isPositional, familyOf?, entryOf?, empty, dashed]

theorem SameFamilies.positional_eq {first second : List String}
    (same : SameFamilies first second) :
    first.filter isPositional = second.filter isPositional := by
  have known : isPositional = fun token => decide (familyOf? token = some "") := by
    funext token
    exact Bool.eq_iff_iff.mpr (by simp [isPositional_iff])
  rw [known]
  exact same ""

theorem SameFamilies.declared_eq {first second : List String} (same : SameFamilies first second)
    (arguments after : List String) :
    declared arguments first after = declared arguments second after := by
  rw [declared, declared, same.told_eq, same.positional_eq]

theorem exists_familyOf? {token : String} (nonempty : token ≠ "") :
    ∃ family, familyOf? token = some family := by
  rw [familyOf?, entryOf?, if_neg nonempty]
  split
  · exact ⟨_, rfl⟩
  · split <;> exact ⟨_, rfl⟩

theorem SameFamilies.good {first second : List String} (same : SameFamilies first second)
    (good : ∀ token ∈ first, Good token) : ∀ token ∈ second, Good token := by
  intro token among
  by_cases empty : token = ""
  · exact .input (by simp [empty])
  · obtain ⟨family, member⟩ := exists_familyOf? empty
    have kept : token ∈ second.filter (familyOf? · = some family) := by simp [among, member]
    rw [← same family] at kept
    exact good token (List.mem_of_mem_filter kept)

theorem sameFamilies_iff {first second : List String} :
    SameFamilies first second ↔ ∀ family ∈ (first ++ second).filterMap familyOf?,
      first.filter (familyOf? · = some family) = second.filter (familyOf? · = some family) := by
  constructor
  case mp => exact fun same family _ => same family
  case mpr =>
    intro same family
    by_cases present : family ∈ (first ++ second).filterMap familyOf?
    · exact same family present
    · have absent (token : String) (among : token ∈ first ++ second) :
          familyOf? token ≠ some family :=
        fun member => present (List.mem_filterMap.mpr ⟨token, among, member⟩)
      rw [List.filter_eq_nil_iff.mpr, List.filter_eq_nil_iff.mpr]
      · intro token among
        simpa using absent token (List.mem_append_right first among)
      · intro token among
        simpa using absent token (List.mem_append_left second among)

instance (first second : List String) : Decidable (SameFamilies first second) :=
  decidable_of_iff _ sameFamilies_iff.symm

/-- An accepted command line gives the options that its tokens declare; another one with the same
tokens in every family is accepted too, and gives the same options, inputs after the mark apart. -/
theorem parse_by_family (count : Int) (argv : Option (List (Option String)))
    (accepted : (parse (tokensOf count argv)).complaint = none) :
    let given := (tokensOf count argv).drop 1
    let options := (parse (tokensOf count argv)).options
    options = declared given (beforeMark given) (afterMark given) ∧
      ∀ otherCount otherArgv,
        let others := (tokensOf otherCount otherArgv).drop 1
        let otherResult := parse (tokensOf otherCount otherArgv)
        SameFamilies (beforeMark given) (beforeMark others) →
          otherResult.complaint = none ∧
            otherResult.options =
              { options with
                arguments := others
                inputs := (beforeMark given).filter isPositional ++
                  (afterMark others).filter (· ≠ "") } ∧
            ((afterMark others).filter (· ≠ "") = (afterMark given).filter (· ≠ "") →
              otherResult.options = { options with arguments := others }) := by
  intro given options
  have known : options = declared given (beforeMark given) (afterMark given) :=
    options_of_accepted accepted
  refine ⟨known, ?_⟩
  intro otherCount otherArgv others otherResult same
  have good := (complaint_eq_none_iff (tokensOf count argv)).mp accepted
  have otherAccepted : otherResult.complaint = none :=
    (complaint_eq_none_iff (tokensOf otherCount otherArgv)).mpr (same.good good)
  have otherKnown : otherResult.options =
      declared others (beforeMark given) (afterMark others) := by
    rw [same.declared_eq]
    exact options_of_accepted otherAccepted
  refine ⟨otherAccepted, ?_, ?_⟩
  · rw [otherKnown, known]
    rfl
  · intro agree
    rw [otherKnown, known, declared, declared, agree]

def plainLine : List (Option String) :=
  [some "proofc", some "a.prf", some "--cxx=g++", some "--proc=M", none, some "--cxx=clang",
    some "--proc=N", some "--", some "-y.prf"]

def reorderedLine : List (Option String) :=
  [some "proofc", some "--cxx=g++", some "--proc=M", some "--cxx=clang", some "--proc=N",
    some "a.prf", some "--", some "", some "-y.prf"]

theorem reorderedLine_options :
    (parse (tokensOf 9 (some plainLine))).complaint = none ∧
      (parse (tokensOf 9 (some reorderedLine))).options =
        { (parse (tokensOf 9 (some plainLine))).options with
          arguments := ["--cxx=g++", "--proc=M", "--cxx=clang", "--proc=N", "a.prf", "--", "",
            "-y.prf"] } := by
  have accepted : (parse (tokensOf 9 (some plainLine))).complaint = none := by decide +kernel
  have same : SameFamilies (beforeMark ((tokensOf 9 (some plainLine)).drop 1))
      (beforeMark ((tokensOf 9 (some reorderedLine)).drop 1)) := by decide
  obtain ⟨-, others⟩ := parse_by_family 9 (some plainLine) accepted
  obtain ⟨-, -, agreeing⟩ := others 9 (some reorderedLine) same
  exact ⟨accepted, agreeing (by decide)⟩

end VerifiedBuild.Options
