import Mathlib.Data.List.Induction
import ScriptCheck.Proofs.Grammar.ShownTypes
import ScriptCheck.Ty.Agree

/-!
# Types that are shown alike agree

The tokens of a type tell the type, also where other tokens stand in front of them. They are taken
apart from the end: the last token tells the form of the type, since suffixes stand behind the
element or the value, and every suffix and every list of parameters is closed by a mark of its own.
Read forwards, a type may go on where another one ends.

A template is shown by its name, and the types of its members are not shown at all. Agreement leaves
them out too. The induction is on the first type, for all second types and for whatever stands in
front of the two.
-/

namespace ScriptCheck

/-- What the tokens of a type tell. -/
def Ty.wordings (type : Ty) : List (Kind × Option String) :=
  type.pieces.map Piece.wording

/-- What the tokens of parameters tell, up to the bracket that closes them. -/
def paramWordings (params : List (String × Ty)) : List (Kind × Option String) :=
  (mark .openBracket :: separated (paramPieces params)).map Piece.wording

/-- The kind of the last token of a type. -/
def Ty.lastKind : Ty → Kind
  | .primitive kept => kept.kind
  | .array _ => .closeBracket
  | .set _ | .map .. => .closeCurly
  | .function _ => .greater
  | .named _ | .template _ => .identifier

/-- From its tokens and those in front of it, a type is known as far as types agree. -/
def Ty.Unambiguous (first : Ty) : Prop :=
  ∀ (second : Ty) (front behind : List (Kind × Option String)),
    front ++ first.wordings = behind ++ second.wordings →
      front = behind ∧ first.agrees second = true

section Equations

@[simp]
theorem Ty.wordings_primitive (primitive : Primitive) :
    (Ty.primitive primitive).wordings = [(primitive.kind, none)] := by
  cases primitive <;> rfl

@[simp]
theorem Ty.wordings_array (element : Ty) : (Ty.array element).wordings =
    element.wordings ++ [(.openBracket, none), (.closeBracket, none)] := by
  simp [Ty.wordings, Ty.pieces, Piece.wording, mark]

@[simp]
theorem Ty.wordings_set (element : Ty) : (Ty.set element).wordings =
    element.wordings ++ [(.openCurly, none)] ++ [(.closeCurly, none)] := by
  simp [Ty.wordings, Ty.pieces, Piece.wording, mark]

@[simp]
theorem Ty.wordings_map (key value : Ty) : (Ty.map key value).wordings =
    value.wordings ++ [(.openCurly, none)] ++ key.wordings ++ [(.closeCurly, none)] := by
  simp [Ty.wordings, Ty.pieces, Piece.wording, mark]

@[simp]
theorem Ty.wordings_function (result : Ty) (params : List (String × Ty)) :
    (Ty.function ⟨result, params⟩).wordings =
      [(.funcWord, none), (.less, none)] ++ result.wordings ++ [(.comma, none)] ++
        paramWordings params ++ [(.closeBracket, none), (.greater, none)] := by
  simp [Ty.wordings, paramWordings, Ty.pieces, Signature.pieces, Piece.wording, mark]

@[simp]
theorem Ty.wordings_named (name : String) :
    (Ty.named name).wordings = [(.identifier, some name)] := rfl

@[simp]
theorem Ty.wordings_template (template : Template) :
    (Ty.template template).wordings = [(.identifier, some template.name)] := rfl

theorem paramWordings_nil : paramWordings [] = [(.openBracket, none)] := rfl

/-- What stands in front of a further parameter. -/
def paramLead (params : List (String × Ty)) : List (Kind × Option String) :=
  if params.isEmpty then [] else [(.comma, none)]

theorem paramWordings_concat (params : List (String × Ty)) (name : String) (type : Ty) :
    paramWordings (params ++ [(name, type)]) =
      paramWordings params ++ paramLead params ++ type.wordings ++ [(.identifier, some name)] := by
  cases params with
  | nil => simp [paramWordings, paramPieces, separated, paramLead, Ty.wordings, Piece.wording, word]
  | cons param rest =>
      simp [paramWordings, paramPieces_eq_map, separated, paramLead, Ty.wordings, Piece.wording,
        word, mark]

end Equations

section LastTokens

variable {front behind : List (Kind × Option String)} {first second : Ty}

theorem Ty.wordings_eq_concat (type : Ty) :
    ∃ before text, type.wordings = before ++ [(type.lastKind, text)] := by
  cases type with
  | primitive primitive => exact ⟨[], none, Ty.wordings_primitive primitive⟩
  | array element =>
      exact ⟨element.wordings ++ [(.openBracket, none)], none, by simp [lastKind]⟩
  | set element => exact ⟨_, none, Ty.wordings_set element⟩
  | map key value => exact ⟨_, none, Ty.wordings_map key value⟩
  | function signature =>
      rcases signature with ⟨result, params⟩
      exact ⟨[(.funcWord, none), (.less, none)] ++ result.wordings ++ [(.comma, none)] ++
        paramWordings params ++ [(.closeBracket, none)], none, by simp [lastKind]⟩
  | named name => exact ⟨[], some name, rfl⟩
  | template template => exact ⟨[], some template.name, rfl⟩

/-- Behind the same tokens stand types of the same form, as far as the last token tells it. -/
theorem Ty.lastKind_of_append {token : Kind × Option String}
    (alike : front ++ first.wordings = behind ++ [token]) : first.lastKind = token.1 := by
  rcases first.wordings_eq_concat with ⟨before, text, written⟩
  rw [written, ← List.append_assoc] at alike
  rw [← List.singleton_inj.mp (List.append_inj' alike rfl).2]

theorem Ty.lastKind_eq (alike : front ++ first.wordings = behind ++ second.wordings) :
    first.lastKind = second.lastKind := by
  rcases second.wordings_eq_concat with ⟨before, text, written⟩
  rw [written, ← List.append_assoc] at alike
  exact Ty.lastKind_of_append alike

theorem Ty.eq_primitive_of_lastKind {primitive : Primitive}
    (last : first.lastKind = primitive.kind) : first = .primitive primitive := by
  cases first with
  | primitive other => cases primitive <;> cases other <;> first | rfl | contradiction
  | _ => cases primitive <;> contradiction

theorem Ty.eq_array_of_lastKind (last : first.lastKind = .closeBracket) :
    ∃ element, first = .array element := by
  cases first with
  | primitive primitive => cases primitive <;> contradiction
  | array element => exact ⟨element, rfl⟩
  | _ => contradiction

theorem Ty.eq_function_of_lastKind (last : first.lastKind = .greater) :
    ∃ result params, first = .function ⟨result, params⟩ := by
  cases first with
  | primitive primitive => cases primitive <;> contradiction
  | function signature =>
      rcases signature with ⟨result, params⟩
      exact ⟨result, params, rfl⟩
  | _ => contradiction

theorem Ty.eq_set_or_map_of_lastKind (last : first.lastKind = .closeCurly) :
    (∃ element, first = .set element) ∨ ∃ key value, first = .map key value := by
  cases first with
  | primitive primitive => cases primitive <;> contradiction
  | set element => exact .inl ⟨element, rfl⟩
  | map key value => exact .inr ⟨key, value, rfl⟩
  | _ => contradiction

theorem Ty.eq_named_or_template_of_lastKind (last : first.lastKind = .identifier) :
    (∃ name, first = .named name) ∨ ∃ template, first = .template template := by
  cases first with
  | primitive primitive => cases primitive <;> contradiction
  | named name => exact .inl ⟨name, rfl⟩
  | template template => exact .inr ⟨template, rfl⟩
  | _ => contradiction

/-- No type ends with the mark that opens the suffix of a set or a map, and so no key is missing. -/
theorem Ty.lastKind_ne_openCurly (type : Ty) : type.lastKind ≠ .openCurly := by
  cases type with
  | primitive primitive => cases primitive <;> decide
  | _ => nofun

end LastTokens

section Parameters

theorem paramsAgree_concat {params others : List (String × Ty)} {name : String} {first second : Ty}
    (agree : paramsAgree params others = true) (agrees : first.agrees second = true) :
    paramsAgree (params ++ [(name, first)]) (others ++ [(name, second)]) = true := by
  induction params generalizing others with
  | nil =>
      cases others with
      | nil => simp [paramsAgree, agrees]
      | cons other others => contradiction
  | cons param params ih =>
      cases others with
      | nil => contradiction
      | cons other others =>
          rw [paramsAgree, Bool.and_eq_true] at agree
          rw [List.cons_append, List.cons_append, paramsAgree, Bool.and_eq_true]
          exact ⟨agree.1, ih agree.2⟩

/-- A bracket tells that no further parameter stands in front, and a comma that one does. -/
theorem paramLead_cons_ne_nil {param : String × Ty} {params : List (String × Ty)}
    {front behind : List (Kind × Option String)}
    (alike : front ++ paramWordings [] ++ paramLead [] =
      behind ++ paramWordings (param :: params) ++ paramLead (param :: params)) : False := by
  have closed : front ++ [(Kind.openBracket, none)] =
      (behind ++ paramWordings (param :: params)) ++ [(Kind.comma, none)] := by
    rw [paramWordings_nil] at alike
    simpa [paramLead] using alike
  have last := (List.append_inj' closed rfl).2
  contradiction

theorem paramLead_cancel {params others : List (String × Ty)}
    {front behind : List (Kind × Option String)}
    (alike : front ++ paramWordings params ++ paramLead params =
      behind ++ paramWordings others ++ paramLead others) :
    front ++ paramWordings params = behind ++ paramWordings others := by
  cases params with
  | nil =>
      cases others with
      | nil => exact List.append_cancel_right alike
      | cons other others => exact (paramLead_cons_ne_nil alike).elim
  | cons param params =>
      cases others with
      | nil => exact (paramLead_cons_ne_nil alike.symm).elim
      | cons other others => exact List.append_cancel_right alike

/-- No list of parameters ends where another one has only begun. -/
theorem paramWordings_concat_ne_nil {params : List (String × Ty)} {param : String × Ty}
    {front behind : List (Kind × Option String)}
    (alike : front ++ paramWordings [] = behind ++ paramWordings (params ++ [param])) : False := by
  rcases param with ⟨name, type⟩
  rw [paramWordings_nil, paramWordings_concat, ← List.append_assoc] at alike
  have last := (List.append_inj' alike rfl).2
  simp at last

/-- From the last parameter to the first one. -/
theorem params_unambiguous {params : List (String × Ty)}
    (unambiguous : ∀ param ∈ params, param.2.Unambiguous) :
    ∀ (others : List (String × Ty)) (front behind : List (Kind × Option String)),
      front ++ paramWordings params = behind ++ paramWordings others →
        front = behind ∧ paramsAgree params others = true := by
  induction params using List.reverseRecOn with
  | nil =>
      intro others front behind alike
      rcases List.eq_nil_or_concat' others with rfl | ⟨others, param, rfl⟩
      · exact ⟨List.append_cancel_right alike, rfl⟩
      · exact (paramWordings_concat_ne_nil alike).elim
  | append_singleton params param ih =>
      intro others front behind alike
      rcases List.eq_nil_or_concat' others with rfl | ⟨others, ⟨otherName, otherType⟩, rfl⟩
      · exact (paramWordings_concat_ne_nil alike.symm).elim
      · rcases param with ⟨name, type⟩
        rw [List.forall_mem_append, List.forall_mem_singleton] at unambiguous
        simp only [paramWordings_concat, ← List.append_assoc] at alike
        rcases List.append_inj' alike rfl with ⟨alikeTypes, last⟩
        have sameName : name = otherName := by simpa using last
        subst sameName
        rcases unambiguous.2 _ _ _ alikeTypes with ⟨alikeRest, agrees⟩
        rcases ih unambiguous.1 others front behind (paramLead_cancel alikeRest) with ⟨same, agree⟩
        exact ⟨same, paramsAgree_concat agree agrees⟩

end Parameters

/-- The bracket in front of the last one of a set opens it, and that of a map ends a key. -/
theorem Ty.set_ne_map {front behind : List (Kind × Option String)} {element key value : Ty}
    (alike : front ++ (Ty.set element).wordings = behind ++ (Ty.map key value).wordings) :
    False := by
  simp only [Ty.wordings_set, Ty.wordings_map, ← List.append_assoc] at alike
  exact key.lastKind_ne_openCurly (Ty.lastKind_of_append (List.append_cancel_right alike).symm)

mutual

theorem Ty.unambiguous (type : Ty) : type.Unambiguous := by
  intro second front behind alike
  have last := (Ty.lastKind_eq alike).symm
  cases type with
  | primitive primitive =>
      rw [Ty.eq_primitive_of_lastKind last] at alike ⊢
      exact ⟨List.append_cancel_right alike, Ty.agrees_refl _⟩
  | array element =>
      rcases Ty.eq_array_of_lastKind last with ⟨other, rfl⟩
      rw [Ty.wordings_array, Ty.wordings_array, ← List.append_assoc, ← List.append_assoc] at alike
      rcases element.unambiguous other front behind (List.append_cancel_right alike) with
        ⟨same, agrees⟩
      exact ⟨same, by simp [Ty.agrees, agrees]⟩
  | set element =>
      rcases Ty.eq_set_or_map_of_lastKind last with ⟨other, rfl⟩ | ⟨key, value, rfl⟩
      · simp only [Ty.wordings_set, ← List.append_assoc] at alike
        have alikeElements := List.append_cancel_right (List.append_cancel_right alike)
        rcases element.unambiguous other front behind alikeElements with ⟨same, agrees⟩
        exact ⟨same, by simp [Ty.agrees, agrees]⟩
      · exact (Ty.set_ne_map alike).elim
  | map key value =>
      rcases Ty.eq_set_or_map_of_lastKind last with ⟨other, rfl⟩ | ⟨otherKey, otherValue, rfl⟩
      · exact (Ty.set_ne_map alike.symm).elim
      · simp only [Ty.wordings_map, ← List.append_assoc] at alike
        rcases key.unambiguous otherKey _ _ (List.append_cancel_right alike) with
          ⟨alikeValues, agreesKey⟩
        rcases value.unambiguous otherValue front behind
          (List.append_cancel_right alikeValues) with ⟨same, agreesValue⟩
        exact ⟨same, by simp [Ty.agrees, agreesKey, agreesValue]⟩
  | function signature =>
      rcases Ty.eq_function_of_lastKind last with ⟨otherResult, others, rfl⟩
      exact signature.unambiguous otherResult others front behind alike
  | named name =>
      rcases Ty.eq_named_or_template_of_lastKind last with ⟨other, rfl⟩ | ⟨other, rfl⟩
      all_goals
        rcases List.append_inj' alike rfl with ⟨same, names⟩
        exact ⟨same, by simpa [Ty.agrees] using names⟩
  | template template =>
      rcases Ty.eq_named_or_template_of_lastKind last with ⟨other, rfl⟩ | ⟨other, rfl⟩
      all_goals
        rcases List.append_inj' alike rfl with ⟨same, names⟩
        exact ⟨same, by simpa [Ty.agrees] using names⟩
  termination_by structural type

theorem Signature.unambiguous (signature : Signature) (otherResult : Ty)
    (others : List (String × Ty)) (front behind : List (Kind × Option String))
    (alike : front ++ (Ty.function signature).wordings =
      behind ++ (Ty.function ⟨otherResult, others⟩).wordings) :
    front = behind ∧ (Ty.function signature).agrees (.function ⟨otherResult, others⟩) = true := by
  rcases signature with ⟨result, params⟩
  simp only [Ty.wordings_function, ← List.append_assoc] at alike
  rcases params_unambiguous (unambiguous_params params) others _ _
    (List.append_cancel_right alike) with ⟨alikeResults, agree⟩
  rcases result.unambiguous otherResult _ _ (List.append_cancel_right alikeResults) with
    ⟨same, agrees⟩
  refine ⟨List.append_cancel_right same, ?_⟩
  rw [Ty.agrees, Signature.agrees, agrees, agree]
  rfl
  termination_by structural signature

theorem unambiguous_params (params : List (String × Ty)) :
    ∀ param ∈ params, param.2.Unambiguous := by
  cases params with
  | nil => nofun
  | cons param rest =>
      rcases param with ⟨name, type⟩
      exact List.forall_mem_cons.mpr ⟨type.unambiguous, unambiguous_params rest⟩
  termination_by structural params

end

/-- The text in which a type is shown is divided into its tokens, and these tell the type. -/
theorem Ty.agrees_of_display {first second : Ty}
    (named : ∀ name ∈ first.shownNames, isName name = true)
    (namedSecond : ∀ name ∈ second.shownNames, isName name = true)
    (alike : first.display = second.display) : first.agrees second = true := by
  rcases first.tokenize_display named "" with ⟨tokens, stop, worded, divided⟩
  rcases second.tokenize_display namedSecond "" with
    ⟨others, stopOthers, wordedOthers, dividedOthers⟩
  rw [alike, dividedOthers] at divided
  have same : others = tokens := (List.append_inj' (Except.ok.inj divided) rfl).1
  have alikeWordings : [] ++ first.wordings = [] ++ second.wordings := by
    rw [Ty.wordings, Ty.wordings, ← worded, ← wordedOthers, same]
  exact (first.unambiguous second [] [] alikeWordings).2

end ScriptCheck
