import Mathlib.Data.List.Forall2
import ScriptMachine.Message

/-! # Expansion variant by variant

An enum is expanded one variant at a time: each variant has the arm that it would have alone, and the
first one without an arm decides the error. A struct is expanded like a variant, but for its path and
for the name under which a missing message is reported. Of all the attributes only the first `error`
attribute of a variant or a struct counts; the others can come and go.
-/

namespace ScriptMachine.Message

variable {attributes : List Attribute} {variants later : List Variant} {variant : Variant}
  {expansion : Expansion} {arm : Arm} {error : Error}

/-- The enum with this variant and no other. -/
def Variant.alone (variant : Variant) : Declaration :=
  .enum [] [variant]

/-! ## Enums -/

theorem expand_alone (variant : Variant) :
    variant.alone.expand = variant.arm.map fun arm => { arms := [arm] } := by
  simp only [Variant.alone, Declaration.expand, List.mapM_cons, List.mapM_nil]
  cases variant.arm <;> rfl

theorem alone_cases (variant : Variant) :
    (∃ arm, variant.arm = .ok arm ∧ variant.alone.expand = .ok { arms := [arm] }) ∨
    ∃ error, variant.arm = .error error ∧ variant.alone.expand = .error error := by
  rw [expand_alone]
  cases made : variant.arm with
  | ok arm => exact .inl ⟨arm, rfl, rfl⟩
  | error error => exact .inr ⟨error, rfl, rfl⟩

theorem expand_cons_of_ok (made : variant.arm = .ok arm) :
    (Declaration.enum attributes (variant :: later)).expand =
      (Declaration.enum attributes later).expand.map fun rest => { arms := arm :: rest.arms } := by
  simp only [Declaration.expand, List.mapM_cons, made]
  cases later.mapM Variant.arm <;> rfl

theorem expand_cons_of_error (failed : variant.arm = .error error) :
    (Declaration.enum attributes (variant :: later)).expand = .error error := by
  simp only [Declaration.expand, List.mapM_cons, failed]
  rfl

theorem expand_enum_eq_ok_iff :
    (Declaration.enum attributes variants).expand = .ok expansion ↔
      List.Forall₂ (fun variant arm => variant.alone.expand = .ok { arms := [arm] })
        variants expansion.arms := by
  obtain ⟨arms⟩ := expansion
  induction variants generalizing arms with
  | nil => simp [Declaration.expand, pure, Except.pure, bind, Except.bind, eq_comm]
  | cons variant later ih =>
      obtain ⟨arm, made, expanded⟩ | ⟨error, failed, refused⟩ := alone_cases variant
      · rw [expand_cons_of_ok made]
        cases arms with
        | nil => cases (Declaration.enum attributes later).expand <;> simp [Except.map]
        | cons first rest =>
            rw [List.forall₂_cons, ← ih, expanded]
            cases (Declaration.enum attributes later).expand with
            | error error => simp [Except.map]
            | ok others =>
                obtain ⟨others⟩ := others
                simp [Except.map]
      · rw [expand_cons_of_error failed]
        cases arms <;> simp [refused]

theorem expand_enum_eq_error_iff :
    (Declaration.enum attributes variants).expand = .error error ↔
      ∃ before failing after, variants = before ++ failing :: after ∧
        (∀ variant ∈ before, ∃ expansion, variant.alone.expand = .ok expansion) ∧
        failing.alone.expand = .error error := by
  induction variants with
  | nil => simp [Declaration.expand, pure, Except.pure, bind, Except.bind]
  | cons variant later ih =>
      obtain ⟨arm, made, expanded⟩ | ⟨problem, failed, refused⟩ := alone_cases variant
      · rw [expand_cons_of_ok made]
        constructor
        · intro failing
          have remaining : (Declaration.enum attributes later).expand = .error error := by
            cases others : (Declaration.enum attributes later).expand with
            | error problem =>
                rw [others] at failing
                exact failing
            | ok expansion =>
                rw [others] at failing
                cases failing
          obtain ⟨before, first, after, rfl, earlier, fails⟩ := ih.mp remaining
          refine ⟨variant :: before, first, after, rfl, ?_, fails⟩
          rw [List.forall_mem_cons]
          exact ⟨⟨_, expanded⟩, earlier⟩
        · rintro ⟨before, first, after, split, earlier, fails⟩
          cases before with
          | nil =>
              cases split
              cases expanded.symm.trans fails
          | cons _ before =>
              cases split
              rw [ih.mpr ⟨before, first, after, rfl, (List.forall_mem_cons.mp earlier).2, fails⟩]
              rfl
      · rw [expand_cons_of_error failed]
        constructor
        · intro same
          cases same
          exact ⟨[], variant, later, rfl, by simp, refused⟩
        · rintro ⟨before, first, after, split, earlier, fails⟩
          cases before with
          | nil =>
              cases split
              exact refused.symm.trans fails
          | cons _ before =>
              cases split
              obtain ⟨_, expanded⟩ := earlier variant List.mem_cons_self
              cases refused.symm.trans expanded

theorem exists_expand_enum_iff :
    (∃ expansion, (Declaration.enum attributes variants).expand = .ok expansion) ↔
      ∀ variant ∈ variants, ∃ expansion, variant.alone.expand = .ok expansion := by
  constructor
  · rintro ⟨expansion, expanded⟩ variant member
    have pointwise := expand_enum_eq_ok_iff.mp expanded
    obtain ⟨index, inside, rfl⟩ := List.getElem_of_mem member
    exact ⟨_, pointwise.get inside (pointwise.length_eq ▸ inside)⟩
  · intro each
    cases expanded : (Declaration.enum attributes variants).expand with
    | ok expansion => exact ⟨expansion, rfl⟩
    | error error =>
        obtain ⟨before, failing, after, rfl, _, fails⟩ := expand_enum_eq_error_iff.mp expanded
        obtain ⟨_, succeeds⟩ := each failing (by simp)
        cases fails.symm.trans succeeds

theorem subject_eq_iff (expansion : Expansion) :
    expansion.subject = "*self" ↔ expansion.arms = [] := by
  rw [Expansion.subject, ← List.isEmpty_iff]
  cases expansion.arms.isEmpty <;> simp

/-! ## Structs -/

/-- What is wrong with a struct, where this is wrong with a variant. -/
def Error.onStruct : Error → Error
  | .missingMessage _ => .missingMessage .struct
  | other => other

theorem message_onStruct (error : Error) :
    error.onStruct.message = error.message ∨
    error.message = "missing #[error(\"...\")] on variant; every error needs a message" ∧
      error.onStruct.message =
        "missing #[error(\"...\")] on struct; every error needs a message" := by
  cases error with
  | missingMessage target =>
      cases target with
      | variant => exact .inr ⟨rfl, rfl⟩
      | struct => exact .inl rfl
  | notOneText | noArguments | implicitPlaceholder _ | union => exact .inl rfl

theorem findTemplate_struct (attributes : List Attribute) :
    findTemplate .struct attributes = (findTemplate .variant attributes).mapError Error.onStruct := by
  unfold findTemplate
  cases attributes.find? (·.path = "error") with
  | none => rfl
  | some found =>
      obtain ⟨path, form⟩ := found
      cases form <;> rfl

theorem makeArm_path (path : String) (fields : Fields) (template : String) :
    makeArm "Self" fields template =
      ((makeArm path fields template).map fun arm => { arm with path := "Self" }).mapError
        Error.onStruct := by
  unfold makeArm
  cases placeholders? template with
  | none => rfl
  | some names => cases fields <;> rfl

theorem expand_struct (name : String) (attributes : List Attribute) (fields : Fields) :
    (Declaration.struct attributes fields).expand =
      ((Variant.mk name attributes fields).arm.map fun arm =>
        { arms := [{ arm with path := "Self" }] }).mapError Error.onStruct := by
  simp only [Declaration.expand, Variant.arm, findTemplate_struct]
  cases findTemplate .variant attributes with
  | error error => rfl
  | ok template =>
      change (makeArm "Self" fields template).bind (fun arm => .ok ({ arms := [arm] } : Expansion)) =
        ((makeArm ("Self::" ++ name) fields template).map _).mapError _
      rw [makeArm_path ("Self::" ++ name)]
      cases makeArm ("Self::" ++ name) fields template <;> rfl

theorem struct_cases (name : String) (attributes : List Attribute) (fields : Fields) :
    (∃ arm, (Variant.mk name attributes fields).alone.expand = .ok { arms := [arm] } ∧
      (Declaration.struct attributes fields).expand =
        .ok { arms := [{ arm with path := "Self" }] }) ∨
    ∃ error, (Variant.mk name attributes fields).alone.expand = .error error ∧
      (Declaration.struct attributes fields).expand = .error error.onStruct := by
  rw [expand_struct name]
  obtain ⟨arm, made, expanded⟩ | ⟨error, failed, refused⟩ :=
    alone_cases (Variant.mk name attributes fields)
  · refine .inl ⟨arm, expanded, ?_⟩
    rw [made]
    rfl
  · refine .inr ⟨error, refused, ?_⟩
    rw [failed]
    rfl

/-! ## Attributes -/

/-- Attributes that differ by such as nothing depends on: those with another path anywhere, and any
    that stand behind an `error` attribute. -/
inductive SameMessage : List Attribute → List Attribute → Prop where
  | refl (attributes : List Attribute) : SameMessage attributes attributes
  | insert (before after : List Attribute) {inserted : Attribute} (other : inserted.path ≠ "error") :
      SameMessage (before ++ after) (before ++ inserted :: after)
  | behind (before after changed : List Attribute) {first : Attribute}
      (message : first.path = "error") :
      SameMessage (before ++ first :: after) (before ++ first :: changed)
  | symm {first second} (same : SameMessage first second) : SameMessage second first
  | trans {first second third} (same : SameMessage first second)
      (further : SameMessage second third) : SameMessage first third

theorem SameMessage.find?_eq {first second : List Attribute} (same : SameMessage first second) :
    first.find? (·.path = "error") = second.find? (·.path = "error") := by
  induction same with
  | refl attributes => rfl
  | insert before after other => simp [List.find?_append, other]
  | behind before after changed message => simp [List.find?_append, message]
  | symm same ih => exact ih.symm
  | trans same further ih ihFurther => exact ih.trans ihFurther

theorem SameMessage.findTemplate_eq {first second : List Attribute}
    (same : SameMessage first second) (target : Target) :
    findTemplate target first = findTemplate target second := by
  simp only [findTemplate, same.find?_eq]

/-- Variants that differ by such attributes only. -/
structure Variant.Alike (first second : Variant) : Prop where
  name : first.name = second.name
  fields : first.fields = second.fields
  attributes : SameMessage first.attributes second.attributes

theorem Variant.Alike.arm_eq {first second : Variant} (alike : first.Alike second) :
    first.arm = second.arm := by
  simp only [Variant.arm, alike.name, alike.fields, alike.attributes.findTemplate_eq]

/-- Declarations that differ by such attributes only. The attributes of an enum itself, and of a
    union, are all of this kind. -/
inductive Declaration.Alike : Declaration → Declaration → Prop where
  | enum (attributes changed : List Attribute) {first second : List Variant}
      (alike : List.Forall₂ Variant.Alike first second) :
      Alike (.enum attributes first) (.enum changed second)
  | struct {first second : List Attribute} (fields : Fields) (same : SameMessage first second) :
      Alike (.struct first fields) (.struct second fields)
  | union (attributes changed : List Attribute) (fields : Fields) :
      Alike (.union attributes fields) (.union changed fields)

theorem mapM_arm_eq {first second : List Variant}
    (alike : List.Forall₂ Variant.Alike first second) :
    first.mapM Variant.arm = second.mapM Variant.arm := by
  induction alike with
  | nil => rfl
  | cons same _ ih => rw [List.mapM_cons, List.mapM_cons, same.arm_eq, ih]

theorem Declaration.Alike.expand_eq {first second : Declaration} (alike : first.Alike second) :
    first.expand = second.expand := by
  cases alike with
  | enum attributes changed alike => simp only [Declaration.expand, mapM_arm_eq alike]
  | struct fields same => simp only [Declaration.expand, same.findTemplate_eq]
  | union attributes changed fields => rfl

/-- An enum is expanded variant by variant, up to the first that has no arm. A struct is expanded like
    a variant, with a path of its own and another name where its message is missing. No attributes
    count but the first `error` attribute of each variant and of a struct, and unions are refused. -/
theorem expansion_is_pointwise :
    (∀ attributes variants,
      ((∃ expansion, (Declaration.enum attributes variants).expand = .ok expansion) ↔
        ∀ variant ∈ variants, ∃ expansion, variant.alone.expand = .ok expansion) ∧
      (∀ expansion, (Declaration.enum attributes variants).expand = .ok expansion →
        List.Forall₂ (fun variant arm => variant.alone.expand = .ok { arms := [arm] })
          variants expansion.arms ∧
        (expansion.arms = [] ↔ variants = []) ∧ (expansion.subject = "*self" ↔ variants = [])) ∧
      ∀ error, (Declaration.enum attributes variants).expand = .error error ↔
        ∃ before failing after, variants = before ++ failing :: after ∧
          (∀ variant ∈ before, ∃ expansion, variant.alone.expand = .ok expansion) ∧
          failing.alone.expand = .error error) ∧
    (∀ name attributes fields,
      (∃ arm, (Variant.mk name attributes fields).alone.expand = .ok { arms := [arm] } ∧
        (Declaration.struct attributes fields).expand =
          .ok { arms := [{ arm with path := "Self" }] }) ∨
      ∃ error, (Variant.mk name attributes fields).alone.expand = .error error ∧
        (Declaration.struct attributes fields).expand = .error error.onStruct) ∧
    (∀ error : Error, error.onStruct.message = error.message ∨
      error.message = "missing #[error(\"...\")] on variant; every error needs a message" ∧
        error.onStruct.message =
          "missing #[error(\"...\")] on struct; every error needs a message") ∧
    (∀ first second : Declaration, first.Alike second → first.expand = second.expand) ∧
    ∀ attributes fields, (Declaration.union attributes fields).expand = .error .union := by
  refine ⟨fun attributes variants => ⟨exists_expand_enum_iff, ?_, fun _ => expand_enum_eq_error_iff⟩,
    struct_cases, message_onStruct, fun _ _ alike => alike.expand_eq, fun _ _ => rfl⟩
  intro expansion expanded
  have pointwise := expand_enum_eq_ok_iff.mp expanded
  have empty : expansion.arms = [] ↔ variants = [] := by
    rw [← List.length_eq_zero_iff, ← List.length_eq_zero_iff, pointwise.length_eq]
  exact ⟨pointwise, empty, (subject_eq_iff expansion).trans empty⟩

/-- Two variants with an arm, a variant without a message before one with a message that is none, and
    a struct with an attribute on either side of its message. -/
theorem expansion_of_two_enums_and_a_struct :
    (∃ expansion, (Declaration.enum [⟨"error", .bare⟩]
        [⟨"Odd", [⟨"error", .text "odd length \x7blength:?\x7d"⟩], .named ["position", "length"]⟩,
          ⟨"Wrapped", [⟨"doc", .value ""⟩, ⟨"error", .text "\x7b0\x7d"⟩], .tuple 2⟩]).expand =
          .ok expansion ∧
      expansion.arms.length = 2 ∧ expansion.subject ≠ "*self") ∧
    (Declaration.enum []
        [⟨"Unknown", [⟨"error", .text "unknown"⟩], .unit⟩, ⟨"Silent", [], .unit⟩,
          ⟨"Bare", [⟨"error", .bare⟩], .unit⟩]).expand = .error (.missingMessage .variant) ∧
    (Declaration.struct [⟨"doc", .bare⟩, ⟨"error", .text "unknown"⟩, ⟨"error", .bare⟩]
        .unit).expand =
      (Declaration.struct [⟨"error", .text "unknown"⟩] .unit).expand := by
  obtain ⟨enums, _, _, alike, _⟩ := expansion_is_pointwise
  refine ⟨?_, ?_, ?_⟩
  · obtain ⟨succeeds, result, _⟩ := enums [⟨"error", .bare⟩]
      [⟨"Odd", [⟨"error", .text "odd length \x7blength:?\x7d"⟩], .named ["position", "length"]⟩,
        ⟨"Wrapped", [⟨"doc", .value ""⟩, ⟨"error", .text "\x7b0\x7d"⟩], .tuple 2⟩]
    obtain ⟨expansion, expanded⟩ := succeeds.mpr
      (List.forall_mem_cons.mpr ⟨⟨_, rfl⟩, List.forall_mem_singleton.mpr ⟨_, rfl⟩⟩)
    obtain ⟨pointwise, _, subject⟩ := result expansion expanded
    refine ⟨expansion, expanded, pointwise.length_eq.symm, ?_⟩
    rw [Ne, subject]
    exact List.cons_ne_nil _ _
  · obtain ⟨_, _, failure⟩ := enums [] [⟨"Unknown", [⟨"error", .text "unknown"⟩], .unit⟩,
      ⟨"Silent", [], .unit⟩, ⟨"Bare", [⟨"error", .bare⟩], .unit⟩]
    apply (failure _).mpr
    refine ⟨[⟨"Unknown", [⟨"error", .text "unknown"⟩], .unit⟩], _, _, rfl, ?_, rfl⟩
    intro variant member
    cases List.mem_singleton.mp member
    exact ⟨_, rfl⟩
  · have documented := SameMessage.insert [] [⟨"error", .text "unknown"⟩, ⟨"error", .bare⟩]
      (show (Attribute.mk "doc" .bare).path ≠ "error" by decide)
    have repeated := SameMessage.behind [] [⟨"error", .bare⟩] []
      (show (Attribute.mk "error" (.text "unknown")).path = "error" from rfl)
    exact alike _ _ (.struct .unit (documented.symm.trans repeated))

end ScriptMachine.Message
