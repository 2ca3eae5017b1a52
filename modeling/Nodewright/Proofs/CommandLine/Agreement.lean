import Mathlib.Data.List.Nodup
import Nodewright.Proofs.CommandLine.Outcomes

/-!
# Validation and compilation agree

Two commands look for the problems of a manifest: `validate` prints them, and `compile` makes
workloads only if there are none. They read the same inputs in the same order and go by the same
report, so the one ends well exactly if the other one does.

## Key results

- `options?_eq_some_iff`: the options of a command are those that its arguments spell
- `ofArguments?_validate_iff`: `validate` without an older manifest is told what `compile` is told
- `EndAlike`: the ways in which both commands may end
- `validate_agrees_with_compile`: they end in one of these ways, whatever they find around them
-/

namespace Nodewright.Command

/-! ## Arguments -/

/-- The options that arguments spell with their values, whichever options there are. -/
def spelled? : List String → Option Options
  | [] => some []
  | ["--"] => some []
  | [arg] =>
    match splitOption? arg with
    | some (name, some value) => some [(name, value)]
    | _ => none
  | arg :: next :: rest =>
    match splitOption? arg with
    | some (name, some value) => (spelled? (next :: rest)).map ((name, value) :: ·)
    | some (name, none) => if isValue next then (spelled? rest).map ((name, next) :: ·) else none
    | none => none

section Arguments

variable {known : List String} {options result : Options} {args : List String}

/-- An option is added if it is known and has not been given yet. -/
theorem addOption?_eq (known : List String) (options : Options) (name value : String) :
    addOption? known options name value =
      if name ∈ known ∧ name ∉ options.map Prod.fst then some ((name, value) :: options)
      else none := by
  have hgiven : (options.any fun o => o.1 == name) = true ↔ name ∈ options.map Prod.fst := by
    simp only [List.any_eq_true, beq_iff_eq, List.mem_map]
  simp only [addOption?, List.contains_eq_mem, Bool.and_eq_true, decide_eq_true_eq,
    Bool.not_eq_true', ← Bool.not_eq_true, hgiven]

/-- Adds options one after the other. -/
def addOptions? (known : List String) (options given : Options) : Option Options :=
  given.foldlM (fun options o => addOption? known options o.1 o.2) options

theorem addOptions?_cons (known : List String) (options given : Options) (o : String × String) :
    addOptions? known options (o :: given) =
      (addOption? known options o.1 o.2).bind (addOptions? known · given) := rfl

/-- The first of several options may be added before the others are looked at. -/
theorem bind_addOptions?_cons (known : List String) (options : Options) (o : String × String)
    (given : Option Options) :
    (given.map (o :: ·)).bind (addOptions? known options) =
      (addOption? known options o.1 o.2).bind fun options =>
        given.bind (addOptions? known options) := by
  cases given with
  | none => exact (Option.bind_fun_none _).symm
  | some given => exact addOptions?_cons known options given o

/-- What arguments spell does not depend on what is known. -/
theorem options?_eq_bind (known : List String) (options : Options) (args : List String) :
    options? known options args = (spelled? args).bind (addOptions? known options) := by
  -- one case for each way in which arguments may go on; what is spelled goes the same way, but for
  -- the options that are turned down
  fun_induction options? known options args with
  | case1 | case2 => rfl
  | case3 options arg hend name value hsplit =>
    simp [spelled?, hsplit, addOptions?]
  | case4 options arg hend hsplit => simp_all [spelled?]
  | case5 options arg next rest name value hsplit added hadded ih =>
    simp only [spelled?, hsplit, bind_addOptions?_cons, hadded, ih]
    rfl
  | case6 options arg next rest name value hsplit hadded =>
    simp only [spelled?, hsplit, bind_addOptions?_cons, hadded]
    rfl
  | case7 options arg next rest name hsplit hvalue added hadded ih =>
    simp only [spelled?, hsplit, if_pos hvalue, bind_addOptions?_cons, hadded, ih]
    rfl
  | case8 options arg next rest name hsplit hvalue hadded =>
    simp only [spelled?, hsplit, if_pos hvalue, bind_addOptions?_cons, hadded]
    rfl
  | case9 options arg next rest name hsplit hvalue =>
    simp only [spelled?, hsplit, if_neg hvalue]
    rfl
  | case10 options arg next rest hsplit =>
    simp only [spelled?, hsplit]
    rfl

/-- Options are added if all of them are known and none is given twice. -/
theorem addOptions?_eq_some_iff {given : Options} (h : (options.map Prod.fst).Nodup) :
    addOptions? known options given = some result ↔
      given.map Prod.fst ⊆ known ∧ ((given.reverse ++ options).map Prod.fst).Nodup ∧
        result = given.reverse ++ options := by
  -- each option is held against those before it, so these grow along the induction
  induction given generalizing options with
  | nil => simp [addOptions?, h, eq_comm]
  | cons o given ih =>
    have hreverse : (o :: given).reverse ++ options = given.reverse ++ o :: options := by simp
    rw [hreverse, List.map_cons, List.cons_subset]
    by_cases hadded : o.1 ∈ known ∧ o.1 ∉ options.map Prod.fst
    · have hstep : addOptions? known options (o :: given) =
          addOptions? known (o :: options) given := by
        rw [addOptions?_cons, addOption?_eq, if_pos hadded]
        rfl
      have hoptions : ((o :: options).map Prod.fst).Nodup := List.nodup_cons.2 ⟨hadded.2, h⟩
      rw [hstep, ih hoptions]
      simp only [hadded.1, true_and]
    · have hstep : addOptions? known options (o :: given) = none := by
        rw [addOptions?_cons, addOption?_eq, if_neg hadded]
        rfl
      rw [hstep]
      refine iff_of_false nofun fun hresult => hadded ⟨hresult.1.1, ?_⟩
      have hnodup := hresult.2.1
      rw [List.map_append] at hnodup
      exact (List.nodup_cons.1 (List.nodup_append.1 hnodup).2.1).1

/-- The options of a command are those that its arguments spell, if all of them are known and none
    is given twice. -/
theorem options?_eq_some_iff :
    options? known [] args = some result ↔
      ∃ given, spelled? args = some given ∧ given.map Prod.fst ⊆ known ∧
        (given.map Prod.fst).Nodup ∧ result = given.reverse := by
  have hadd (given : Options) : addOptions? known [] given = some result ↔
      given.map Prod.fst ⊆ known ∧ (given.map Prod.fst).Nodup ∧ result = given.reverse := by
    have hnone : (([] : Options).map Prod.fst).Nodup := List.nodup_nil
    rw [addOptions?_eq_some_iff hnone, List.append_nil, List.map_reverse, List.nodup_reverse]
  simp only [options?_eq_bind, Option.bind_eq_some_iff, hadd]

/-- If no older manifest is named, the other options are those of a command that knows of none. -/
theorem options?_and_lookupEntry_eq_none_iff :
    (options? ["manifest", "old", "config"] [] args = some result ∧
        lookupEntry "old" result = none) ↔
      options? ["manifest", "config"] [] args = some result := by
  -- the two commands know the same options, but for the one that names the older manifest
  have hnames (names : List String) :
      (names ⊆ ["manifest", "old", "config"] ∧ "old" ∉ names) ↔
        names ⊆ ["manifest", "config"] := by
    constructor
    · rintro ⟨h, hold⟩ name hname
      have hne : name ≠ "old" := fun heq => hold (heq ▸ hname)
      have hmem := h hname
      simp only [List.mem_cons, List.not_mem_nil, or_false, hne, false_or] at hmem ⊢
      exact hmem
    · intro h
      refine ⟨fun name hname => ?_, fun hold => absurd (h hold) (by decide)⟩
      have hmem := h hname
      simp only [List.mem_cons, List.not_mem_nil, or_false] at hmem ⊢
      exact hmem.imp_right .inr
  have hold (given : Options) :
      lookupEntry "old" given.reverse = none ↔ "old" ∉ given.map Prod.fst := by
    rw [lookupEntry_eq_none_iff, List.map_reverse, List.mem_reverse]
  rw [options?_eq_some_iff, options?_eq_some_iff]
  constructor
  · rintro ⟨⟨given, hspelled, hknown, hnodup, rfl⟩, hnone⟩
    exact ⟨given, hspelled, (hnames _).1 ⟨hknown, (hold given).1 hnone⟩, hnodup, rfl⟩
  · rintro ⟨given, hspelled, hknown, hnodup, rfl⟩
    obtain ⟨hknown', hmissing⟩ := (hnames _).2 hknown
    exact ⟨⟨given, hspelled, hknown', hnodup, rfl⟩, (hold given).2 hmissing⟩

/-- If no older manifest is named, validation is told the same as compilation. -/
theorem ofArguments?_validate_iff {file : String} {config : Option String} :
    ofArguments? ("validate" :: args) = some (validate file none config) ↔
      ofArguments? ("compile" :: args) = some (compile file config) := by
  have hvalidate : ofArguments? ("validate" :: args) = some (validate file none config) ↔
      ∃ options, (options? ["manifest", "old", "config"] [] args = some options ∧
        lookupEntry "old" options = none) ∧ lookupEntry "manifest" options = some file ∧
          lookupEntry "config" options = config := by
    simp [ofArguments?, Option.bind_eq_some_iff, and_assoc, and_left_comm]
  have hcompile : ofArguments? ("compile" :: args) = some (compile file config) ↔
      ∃ options, options? ["manifest", "config"] [] args = some options ∧
        lookupEntry "manifest" options = some file ∧ lookupEntry "config" options = config := by
    simp [ofArguments?, Option.bind_eq_some_iff]
  simp only [hvalidate, hcompile, options?_and_lookupEntry_eq_none_iff]

end Arguments

/-! ## Outcomes -/

/-- The ways in which validation and compilation end that are given the same inputs. Both stop where
    the inputs cannot be read, with the same words; else both go by the same report. -/
inductive EndAlike (inputs : Except CommandError (Image.Overrides × Manifest)) :
    Outcome → Outcome → Prop
  | unread {e : CommandError} (h : inputs = .error e) :
      EndAlike inputs (.failure "" e.message) (.failure "" e.message)
  | valid {images : Image.Overrides} {m : Manifest} (h : inputs = .ok (images, m))
      (hreport : (m.fill images).problems = []) :
      EndAlike inputs
        (.success (line (m.kind.name ++ " " ++ Text.quoted m.name ++ " is valid")))
        (.success (line (Json.array ((m.fill images).workloads.map Workload.toJson)).indented))
  | invalid {images : Image.Overrides} {m : Manifest} {report : Report}
      (h : inputs = .ok (images, m)) (hreport : (m.fill images).problems = report)
      (hne : report ≠ []) :
      EndAlike inputs
        (.failure (String.join (report.map fun v => line v.text))
          (line ("Error: " ++ (m.kind.name ++ " " ++ Text.quoted m.name) ++ " has " ++
            toString report.length ++ " violation(s)")))
        (.failure "" (line ("Error: " ++ (m.kind.name ++ " " ++ Text.quoted m.name) ++
          " is invalid: " ++ report.text)))

/-- Two commands that end alike end well together. -/
theorem EndAlike.exitCode_eq_zero_iff {inputs : Except CommandError (Image.Overrides × Manifest)}
    {o o' : Outcome} (h : EndAlike inputs o o') : o.exitCode = 0 ↔ o'.exitCode = 0 := by
  cases h <;> exact Iff.rfl

/-- Neither command looks at anything but its inputs and the problems of the filled manifest. -/
theorem validate_compile_endAlike (s : Surroundings) (file : String) (config : Option String) :
    EndAlike (loadInputs s file config) ((validate file none config).run s)
      ((compile file config).run s) := by
  -- both read the same inputs first, and where these are read both look at the same report
  cases hinputs : loadInputs s file config with
  | error e =>
    obtain ⟨-, hvalidate, hcompile⟩ := run_of_loadInputs_eq_error hinputs none
    rw [hvalidate, hcompile]
    exact .unread rfl
  | ok inputs =>
    obtain ⟨images, m⟩ := inputs
    have hvalidate : (validate file none config).run s = verdict m (m.fill images).problems :=
      run_validate hinputs none
    rw [hvalidate, run_compile hinputs]
    cases hreport : (m.fill images).problems with
    | nil =>
      have hadmission : m.admission images none =
          .ok ⟨m.fill images, (m.fill images).workloads⟩ := by
        simp [Manifest.admission, Manifest.problemsAfter, hreport]
      rw [hadmission]
      exact .valid rfl hreport
    | cons v rest =>
      have hadmission : m.admission images none = .error ⟨m.kind, m.name, v :: rest⟩ := by
        simp [Manifest.admission, Manifest.problemsAfter, hreport]
      rw [hadmission]
      exact .invalid rfl hreport (List.cons_ne_nil v rest)

/-- Validation without an older manifest and compilation take the same arguments, and end alike with
    them whatever they find around them. So the one ends well exactly if the other one does. -/
theorem validate_agrees_with_compile (s : Surroundings) (file : String) (config : Option String) :
    (∀ args, ofArguments? ("validate" :: args) = some (validate file none config) ↔
      ofArguments? ("compile" :: args) = some (compile file config)) ∧
      EndAlike (loadInputs s file config) ((validate file none config).run s)
        ((compile file config).run s) ∧
      (((validate file none config).run s).exitCode = 0 ↔
        ((compile file config).run s).exitCode = 0) := by
  have halike := validate_compile_endAlike s file config
  exact ⟨fun _ => ofArguments?_validate_iff, halike, halike.exitCode_eq_zero_iff⟩

end Nodewright.Command
