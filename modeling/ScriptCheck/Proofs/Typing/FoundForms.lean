import ScriptCheck.Proofs.Typing.Finding

/-!
# What is found for each form

The runs of the checker for expressions, statements and declarations, and of the search, from closed
moments on. The states between the steps of a form are known from the steps before, so that every
step starts at a moment as well.
-/

namespace ScriptCheck.Promising

open Checker Keeping

variable {opens : String → Prop}

mutual

theorem ends_checkExpr {watched : Bool} (expr : Expr) {state : CheckState}
    (whole : (Part.expr expr).InfersWhole opens)
    (closed : Moment.Closed opens (.check (.expr expr) state))
    (obeyed : (promising opens).Obeyed watched state) :
    (promising opens).Ends watched (Ty.Found opens) (checkExpr expr state) := by
  have resolved {action : Checker Ty}
      (ends : (promising opens).Ends watched (Ty.Found opens) (action state)) :
      (promising opens).Ends watched (Ty.Found opens) ((resolve =<< action) state) :=
    ends.bind fun _ after _ found => upholds_resolveFound found after
  have inner {operand : Expr} (member : operand ∈ expr.operands) :
      (Part.expr operand).InfersWhole opens := whole.held (.operand member)
  cases expr with
  | integer value => exact resolved ⟨nofun, obeyed⟩
  | float value => exact resolved ⟨nofun, obeyed⟩
  | string value => exact resolved ⟨nofun, obeyed⟩
  | boolean value => exact resolved ⟨nofun, obeyed⟩
  | null => exact resolved ⟨nofun, obeyed⟩
  | array elements =>
      rw [checkExpr]
      refine resolved ((ends_checkElements "array" elements (fun _ => inner) closed.operands
        obeyed).bind fun element after _ found obeyedAfter => ?_)
      exact ⟨found, obeyedAfter⟩
  | set elements =>
      rw [checkExpr]
      refine resolved ((ends_checkElements "set" elements (fun _ => inner) closed.operands
        obeyed).bind fun element after _ found obeyedAfter => ?_)
      have checked : (promising opens).Upholds watched (Ty.Found opens) (do
          follow (Rule.hashableElement elements.isEmpty element)
          pure (.set element)) :=
        (upholds_check _).bind fun _ _ => upholds_pure found
      exact checked after obeyedAfter
  | map pairs =>
      rw [checkExpr]
      refine resolved (ends_checkMap pairs (fun pair member => ⟨inner ?_, inner ?_⟩)
        closed.operands obeyed)
      · exact List.mem_flatMap.mpr ⟨pair, member, List.mem_cons_self⟩
      · exact List.mem_flatMap.mpr ⟨pair, member, List.mem_cons_of_mem _ List.mem_cons_self⟩
  | entity name attributes =>
      rw [checkExpr]
      refine resolved ((upholds_templateOr _ name state obeyed).bind ?_)
      intro template after ran promised obeyedAfter
      rw [(state_of_templateOr ran).1] at obeyedAfter ⊢
      have values (entry : String × Expr) (member : entry ∈ attributes) :
          (Part.expr entry.2).InfersWhole opens := inner (List.mem_map_of_mem member)
      exact (ends_checkAttributes template attributes values closed.operands obeyed).bind
        fun _ last _ _ obeyedLast => ⟨promised, obeyedLast⟩
  | function params body =>
      rw [checkExpr]
      have promised : Signature.Promised opens { result := .infer, params } :=
        ⟨.inl rfl, whole.self⟩
      have statements (stmt : Stmt) (member : stmt ∈ body.body) :
          (Part.stmt stmt).InfersWhole opens := whole.held (.literalBody params member)
      refine resolved (Ends.afterMentions obeyed ?_)
      refine (ends_prepare promised promised_no_template obeyed
        (fun inside seeks => closed.next (.literal seeks))
        fun inside closedInside => ends_searchBody body statements closedInside).bind ?_
      intro prepared ready ranPrepare promisedPrepared _
      cases state_of_inferResult ranPrepare
      refine (ends_checkFunction promisedPrepared promised_no_template obeyed
        (closed.next (.visit (.literal [] ranPrepare)))
        fun inside closedInside => ends_checkBody body statements closedInside).bind ?_
      exact fun resolved last _ found obeyedLast => ⟨found, obeyedLast⟩
  | identifier name =>
      rw [checkExpr]
      refine resolved ((upholds_lookup? .function name state obeyed).bind ?_)
      intro found after ran bound obeyedAfter
      have looked := (EStateM.Result.ok.inj ran).1
      cases found with
      | none => exact upholds_fail _ after obeyedAfter
      | some type =>
          -- The name of an open function would be read at this moment.
          refine ⟨Ty.Promised.found (bound type rfl) fun signature same opened => ?_, obeyedAfter⟩
          rw [same] at looked
          exact eq_false_of_ne_true fun isOpen => closed.self (.name opened looked isOpen)
  | unary operator fixity operand =>
      rw [checkExpr]
      refine resolved (Ends.afterFollow obeyed fun _ _ => ?_)
      refine (ends_checkExpr operand (inner List.mem_cons_self) closed.operands.head obeyed).bind ?_
      intro type last _ found obeyedLast
      exact upholds_follow (fun _ typed => found.unary typed) last obeyedLast
  | binary operator left right =>
      rw [checkExpr]
      refine resolved ((ends_checkExpr left (inner List.mem_cons_self) closed.operands.head
        obeyed).bind fun type after ran found obeyedAfter => ?_)
      refine (ends_checkExpr right (inner (by simp [Expr.operands]))
        (closed.operands.tail ran).head obeyedAfter).bind fun other last _ _ obeyedLast => ?_
      exact upholds_follow (fun _ typed => found.binary typed) last obeyedLast
  | assignment target value =>
      rw [checkExpr]
      refine resolved ((ends_checkExpr target (inner List.mem_cons_self) closed.operands.head
        obeyed).bind fun type after ran found obeyedAfter => ?_)
      refine (ends_checkExpr value (inner (by simp [Expr.operands]))
        (closed.operands.tail ran).head obeyedAfter).bind fun other last _ _ obeyedLast => ?_
      refine upholds_follow (fun result typed => ?_) last obeyedLast
      rw [Rule.eq_of_assignment typed]
      exact found
  | index base index =>
      rw [checkExpr]
      refine resolved ((ends_checkExpr base (inner List.mem_cons_self) closed.operands.head
        obeyed).bind fun type after ran found obeyedAfter => ?_)
      refine (ends_checkExpr index (inner (by simp [Expr.operands]))
        (closed.operands.tail ran).head obeyedAfter).bind fun other last _ _ obeyedLast => ?_
      exact upholds_follow (fun _ typed => found.index typed) last obeyedLast
  | call callee arguments =>
      rw [checkExpr]
      have operands := closed.operands
      have values (argument : Expr) (member : argument ∈ arguments) :
          (Part.expr argument).InfersWhole opens := inner (by
        rw [Expr.operands]
        split
        · exact member
        · exact List.mem_cons_of_mem _ member)
      rw [Expr.operands] at operands
      refine resolved ?_
      cases called : callee.name? with
      | some name =>
          rw [called] at operands
          refine (upholds_calledByName name _ state obeyed).bind ?_
          intro signature after ran found obeyedAfter
          cases (ok_of_calledByName ran).1
          exact (ends_checkArguments signature.params arguments values operands obeyed).bind
            fun _ last _ _ obeyedLast => ⟨(Signature.found_iff.mp found).1, obeyedLast⟩
      | none =>
          rw [called] at operands
          have calls : (promising opens).Ends watched (Signature.Found opens)
              (calleeSignature none arguments.length (checkExpr callee) state) := by
            refine (ends_checkExpr callee (inner (by simp [Expr.operands, called])) operands.head
              obeyed).bind fun type after _ found obeyedAfter => ?_
            refine upholds_follow (fun signature typed => ?_) after obeyedAfter
            rw [Rule.eq_of_callee typed] at found
            exact found
          refine calls.bind fun signature after ran found obeyedAfter => ?_
          rcases ok_of_bind_eq_ok ran with ⟨type, past, ranCallee, followed⟩
          cases (ok_of_follow followed).2
          exact (ends_checkArguments signature.params arguments values (operands.tail ranCallee)
            obeyedAfter).bind fun _ last _ _ obeyedLast =>
              ⟨(Signature.found_iff.mp found).1, obeyedLast⟩
  | member object name =>
      rw [checkExpr]
      refine resolved ((ends_checkExpr object (inner List.mem_cons_self) closed.operands.head
        obeyed).bind fun type after ran found obeyedAfter => ?_)
      refine upholds_follow (fun result typed => ?_) after obeyedAfter
      have declared := Rule.member?_of_member typed
      -- An open method can be called here, and cannot be read.
      refine (found.member declared).found fun signature same opened => ?_
      rw [same] at declared
      exact eq_false_of_ne_true fun isOpen => closed.self (.member opened ran declared isOpen)
  | methodCall object name arguments =>
      rw [checkExpr]
      refine resolved ((ends_checkExpr object (inner List.mem_cons_self) closed.operands.head
        obeyed).bind fun type after ran found obeyedAfter => ?_)
      refine Ends.afterFollow obeyedAfter fun signature typed => ?_
      have values (argument : Expr) (member : argument ∈ arguments) :
          (Part.expr argument).InfersWhole opens := inner (List.mem_cons_of_mem _ member)
      exact (ends_checkArguments signature.params arguments values (closed.operands.tail ran)
        obeyedAfter).bind fun _ last _ _ obeyedLast =>
          ⟨found.method typed, obeyedLast⟩
  termination_by structural expr

theorem ends_checkElements {watched : Bool} (collection : String) (elements : List Expr)
    {state : CheckState} (whole : ∀ expr ∈ elements, (Part.expr expr).InfersWhole opens)
    (closed : Moment.Closed opens (.check (.exprs elements) state))
    (obeyed : (promising opens).Obeyed watched state) :
    (promising opens).Ends watched (Ty.Found opens) (checkElements collection elements state) := by
  cases elements with
  | nil =>
      rw [checkElements]
      exact ⟨Ty.found_void, obeyed⟩
  | cons first rest =>
      rw [checkElements]
      rcases List.forall_mem_cons.mp whole with ⟨wholeFirst, wholeRest⟩
      refine (ends_checkExpr first wholeFirst closed.head obeyed).bind ?_
      intro expected after ran found obeyedAfter
      exact (ends_checkRest collection expected rest wholeRest (closed.tail ran) obeyedAfter).bind
        fun _ last _ _ obeyedLast => ⟨found, obeyedLast⟩
  termination_by structural elements

theorem ends_checkRest {watched : Bool} (collection : String) (expected : Ty)
    (elements : List Expr) {state : CheckState}
    (whole : ∀ expr ∈ elements, (Part.expr expr).InfersWhole opens)
    (closed : Moment.Closed opens (.check (.exprs elements) state))
    (obeyed : (promising opens).Obeyed watched state) :
    (promising opens).Ends watched (fun _ => True)
      (checkRest collection expected elements state) := by
  cases elements with
  | nil =>
      rw [checkRest]
      exact ⟨trivial, obeyed⟩
  | cons next rest =>
      rw [checkRest]
      rcases List.forall_mem_cons.mp whole with ⟨wholeNext, wholeRest⟩
      refine (ends_checkExpr next wholeNext closed.head obeyed).bind ?_
      intro received after ran _ obeyedAfter
      refine Ends.afterFollow obeyedAfter fun _ _ => ?_
      exact ends_checkRest collection expected rest wholeRest (closed.tail ran) obeyedAfter
  termination_by structural elements

theorem ends_checkMap {watched : Bool} (pairs : List (Expr × Expr)) {state : CheckState}
    (whole : ∀ pair ∈ pairs,
      (Part.expr pair.1).InfersWhole opens ∧ (Part.expr pair.2).InfersWhole opens)
    (closed : Moment.Closed opens
      (.check (.exprs (pairs.flatMap fun pair => [pair.1, pair.2])) state))
    (obeyed : (promising opens).Obeyed watched state) :
    (promising opens).Ends watched (Ty.Found opens) (checkMap pairs state) := by
  cases pairs with
  | nil =>
      rw [checkMap]
      exact ⟨⟨Ty.found_void, Ty.found_void⟩, obeyed⟩
  | cons pair rest =>
      rcases pair with ⟨first, second⟩
      rw [checkMap]
      rcases List.forall_mem_cons.mp whole with ⟨⟨wholeFirst, wholeSecond⟩, wholeRest⟩
      refine (ends_checkExpr first wholeFirst closed.head obeyed).bind ?_
      intro key after ran foundKey obeyedAfter
      refine (ends_checkExpr second wholeSecond (closed.tail ran).head obeyedAfter).bind ?_
      intro value past ranSecond foundValue obeyedPast
      refine Ends.afterFollow obeyedPast fun _ _ => ?_
      exact (ends_checkPairs key value rest wholeRest ((closed.tail ran).tail ranSecond)
        obeyedPast).bind fun _ last _ _ obeyedLast => ⟨⟨foundKey, foundValue⟩, obeyedLast⟩
  termination_by structural pairs

theorem ends_checkPairs {watched : Bool} (key value : Ty) (pairs : List (Expr × Expr))
    {state : CheckState}
    (whole : ∀ pair ∈ pairs,
      (Part.expr pair.1).InfersWhole opens ∧ (Part.expr pair.2).InfersWhole opens)
    (closed : Moment.Closed opens
      (.check (.exprs (pairs.flatMap fun pair => [pair.1, pair.2])) state))
    (obeyed : (promising opens).Obeyed watched state) :
    (promising opens).Ends watched (fun _ => True) (checkPairs key value pairs state) := by
  cases pairs with
  | nil =>
      rw [checkPairs]
      exact ⟨trivial, obeyed⟩
  | cons pair rest =>
      rcases pair with ⟨first, second⟩
      rw [checkPairs]
      rcases List.forall_mem_cons.mp whole with ⟨⟨wholeFirst, wholeSecond⟩, wholeRest⟩
      refine (ends_checkExpr first wholeFirst closed.head obeyed).bind ?_
      intro _ after ran _ obeyedAfter
      refine Ends.afterFollow obeyedAfter fun _ _ => ?_
      refine (ends_checkExpr second wholeSecond (closed.tail ran).head obeyedAfter).bind ?_
      intro _ past ranSecond _ obeyedPast
      refine Ends.afterFollow obeyedPast fun _ _ => ?_
      exact ends_checkPairs key value rest wholeRest ((closed.tail ran).tail ranSecond) obeyedPast
  termination_by structural pairs

theorem ends_checkAttributes {watched : Bool} (template : Template)
    (attributes : List (String × Expr)) {state : CheckState}
    (whole : ∀ entry ∈ attributes, (Part.expr entry.2).InfersWhole opens)
    (closed : Moment.Closed opens (.check (.exprs (attributes.map (·.2))) state))
    (obeyed : (promising opens).Obeyed watched state) :
    (promising opens).Ends watched (fun _ => True) (checkAttributes template attributes state) := by
  cases attributes with
  | nil =>
      rw [checkAttributes]
      exact ⟨trivial, obeyed⟩
  | cons entry rest =>
      rcases entry with ⟨name, expr⟩
      rw [checkAttributes]
      rcases List.forall_mem_cons.mp whole with ⟨wholeFirst, wholeRest⟩
      refine (upholds_declaredAttribute name state obeyed).bind fun _ same declares _ _ => ?_
      cases state_of_declaredAttribute declares
      refine (ends_checkExpr expr wholeFirst closed.head obeyed).bind ?_
      intro _ after ran _ obeyedAfter
      refine Ends.afterFollow obeyedAfter fun _ _ => ?_
      exact ends_checkAttributes template rest wholeRest (closed.tail ran) obeyedAfter
  termination_by structural attributes

theorem ends_checkArguments {watched : Bool} (params : List (String × Ty))
    (arguments : List Expr) {state : CheckState}
    (whole : ∀ expr ∈ arguments, (Part.expr expr).InfersWhole opens)
    (closed : Moment.Closed opens (.check (.exprs arguments) state))
    (obeyed : (promising opens).Obeyed watched state) :
    (promising opens).Ends watched (fun _ => True) (checkArguments params arguments state) := by
  cases arguments with
  | nil =>
      rw [checkArguments]
      exact ⟨trivial, obeyed⟩
  | cons next rest =>
      rcases List.forall_mem_cons.mp whole with ⟨wholeNext, wholeRest⟩
      cases params with
      | nil =>
          rw [checkArguments]
          exact ⟨trivial, obeyed⟩
      | cons param others =>
          rcases param with ⟨name, expected⟩
          rw [checkArguments]
          refine (ends_checkExpr next wholeNext closed.head obeyed).bind ?_
          intro _ after ran _ obeyedAfter
          refine Ends.afterFollow obeyedAfter fun _ _ => ?_
          exact ends_checkArguments others rest wholeRest (closed.tail ran) obeyedAfter
  termination_by structural arguments

theorem ends_checkStmt {watched : Bool} (stmt : Stmt) {state : CheckState}
    (whole : (Part.stmt stmt).InfersWhole opens)
    (closed : Moment.Closed opens (.check (.stmt stmt) state))
    (obeyed : (promising opens).Obeyed watched state) :
    (promising opens).Ends watched (fun _ => True) (checkStmt stmt state) := by
  have operand {expr : Expr} (member : expr ∈ stmt.operands) :
      (Part.expr expr).InfersWhole opens := whole.held (.stmtOperand member)
  have nested {block : Block} (among : block ∈ stmt.blocks) (inner : Stmt)
      (member : inner ∈ block.body) : (Part.stmt inner).InfersWhole opens :=
    whole.held (.nested among member)
  have operands := closed.stmtOperands
  cases stmt with
  | varDecl position id name declared initializer =>
      rw [checkStmt]
      refine Ends.atStmt obeyed ((ends_checkExpr initializer (operand List.mem_cons_self)
        operands.head (obeyed.movedTo position)).bind ?_)
      intro actual after _ found obeyedAfter
      exact upholds_declareVariable id name whole.self found after obeyedAfter
  | expression position expression =>
      rw [checkStmt]
      exact Ends.atStmt obeyed (ends_checkExpr expression (operand List.mem_cons_self)
        operands.head (obeyed.movedTo position)).discard
  | block content =>
      rw [checkStmt]
      refine Ends.atStmt obeyed (Ends.within rfl (keeps_checkBody content) ?_).discard
      exact ends_checkBody content (nested List.mem_cons_self)
        (closed.next (.visit (.block content state [])))
        ((obeyed.movedTo content.position).entered rfl)
  | ifElse position condition thenBlock elseBlock =>
      rw [checkStmt]
      refine Ends.atStmt obeyed ((ends_checkExpr condition (operand List.mem_cons_self)
        operands.head (obeyed.movedTo position)).bind ?_)
      intro type between ran _ obeyedBetween
      refine Ends.afterFollow obeyedBetween fun _ _ => Ends.afterRequire obeyedBetween ?_
      refine (Ends.within rfl (keeps_checkBody thenBlock) (ends_checkBody thenBlock
        (nested List.mem_cons_self) (closed.next (.visit (.thenBlock thenBlock elseBlock [] ran)))
        (obeyedBetween.entered rfl))).bind fun first past ranThen _ obeyedPast => ?_
      refine Ends.afterRequire obeyedPast ?_
      refine (ends_checkElse elseBlock (fun block among => nested ?_) (fun block same => ?_)
        obeyedPast).bind fun goesOn last _ _ obeyedLast => ?_
      · exact List.mem_cons_of_mem _ (Option.mem_toList.mpr among)
      · cases same
        exact closed.next (.visit (.elseBlock block [] ran ranThen))
      · have ended : (promising opens).Upholds watched (fun _ => True)
            (unless first.reachable || goesOn do modifyScopes (·.setUnreachable)) := by
          split
          · exact upholds_pure trivial
          · exact upholds_setUnreachable
        exact ended last obeyedLast
  | whileLoop position condition body =>
      rw [checkStmt]
      refine Ends.atStmt obeyed ((ends_checkExpr condition (operand List.mem_cons_self)
        operands.head (obeyed.movedTo position)).bind ?_)
      intro type between ran _ obeyedBetween
      refine Ends.afterFollow obeyedBetween fun _ _ => ?_
      refine (Ends.within rfl (keeps_checkBody body) ?_).discard
      exact ends_checkBody body (nested List.mem_cons_self)
        (closed.next (.visit (.whileBody body [] ran))) (obeyedBetween.entered rfl)
  | range position name first last step body =>
      rw [checkStmt]
      refine Ends.atStmt obeyed ((ends_checkExpr first (operand List.mem_cons_self)
        operands.head (obeyed.movedTo position)).bind ?_)
      intro _ begun ranFirst _ obeyedBegun
      refine Ends.afterFollow obeyedBegun fun _ _ => ?_
      refine (ends_checkExpr last (operand (by simp [Stmt.operands]))
        (operands.tail ranFirst).head obeyedBegun).bind ?_
      intro _ ended ranLast _ obeyedEnded
      refine Ends.afterFollow obeyedEnded fun _ _ => ?_
      refine (ends_checkExpr step (operand (by simp [Stmt.operands]))
        ((operands.tail ranFirst).tail ranLast).head obeyedEnded).bind ?_
      intro _ between ranStep _ obeyedBetween
      refine Ends.afterFollow obeyedBetween fun _ _ => ?_
      have ranParts : checkExprs [first, last, step] (state.movedTo position) = .ok () between :=
        (checkExprs_cons _ ranFirst).trans
          ((checkExprs_cons _ ranLast).trans (checkExprs_cons [] ranStep))
      have keeps := (keeps_define_kept name .int).bind (fun _ => keeps_checkBody body)
        fun _ _ _ => ScopeStack.Kept.trans
      have counter : Ty.Promised opens name .int := nofun
      refine (Ends.within rfl keeps ?_).discard
      refine (upholds_define name counter _ (obeyedBetween.entered rfl)).bind ?_
      intro _ inside defined _ obeyedInside
      exact ends_checkBody body (nested List.mem_cons_self)
        (closed.next (.visit (.rangeBody body [] ranParts defined))) obeyedInside
  | each position name iterable body =>
      rw [checkStmt]
      refine Ends.atStmt obeyed ((ends_checkExpr iterable (operand List.mem_cons_self)
        operands.head (obeyed.movedTo position)).bind ?_)
      intro type between ran found obeyedBetween
      refine Ends.afterFollow obeyedBetween fun element typed => ?_
      cases Rule.eq_of_iterated typed
      have foundElement : element.Found opens := found
      have keeps := (keeps_define_kept name element).bind (fun _ => keeps_checkBody body)
        fun _ _ _ => ScopeStack.Kept.trans
      refine (Ends.within rfl keeps ?_).discard
      have bound := foundElement.promised name
      refine (upholds_define name bound _ (obeyedBetween.entered rfl)).bind ?_
      intro _ inside defined _ obeyedInside
      exact ends_checkBody body (nested List.mem_cons_self)
        (closed.next (.visit (.eachBody body [] ran defined))) obeyedInside
  | halt position =>
      rw [checkStmt]
      exact Ends.atStmt obeyed (upholds_leaveRound _ _ (obeyed.movedTo position))
  | skip position =>
      rw [checkStmt]
      exact Ends.atStmt obeyed (upholds_leaveRound _ _ (obeyed.movedTo position))
  | returning position value =>
      rw [checkStmt]
      have moved := obeyed.movedTo position
      refine Ends.atStmt obeyed ((upholds_expectedResult _ moved).bind ?_)
      intro expected same ran _ _
      cases state_of_expectedResult ran
      refine (ends_checkReturned value (fun expr among => operand ?_) (fun expr same => ?_)
        moved).bind fun actual last _ found obeyedLast => ?_
      · exact Option.mem_toList.mpr among
      · cases same
        exact operands.head
      · have gives (signature : Signature) (promised : signature.Promised opens) :
            (signature.withResult actual).Promised opens := promised.withResult found
        exact upholds_returnType expected gives last obeyedLast
  | fnDecl declaration =>
      rw [checkStmt]
      exact Ends.atStmt obeyed (ends_checkFnDecl declaration whole.function closed obeyed)
  | echo position expression =>
      rw [checkStmt]
      exact Ends.atStmt obeyed (ends_checkExpr expression (operand List.mem_cons_self)
        operands.head (obeyed.movedTo position)).discard
  | templateDecl position name attributes methods =>
      rw [checkStmt]
      have functions (method : FnDecl) (among : method ∈ methods) : method.InfersWhole opens :=
        whole.method among
      refine Ends.atStmt obeyed ((upholds_declareTemplate whole.template _
        (obeyed.movedTo position)).bind fun _ declared ran _ obeyedDeclared => ?_)
      refine (ends_prepareMethods _ 0 methods whole.template
        (declares_declaredTemplate name attributes methods) functions
        (closed.next (.visit (.signatures [] ran))) obeyedDeclared).bind ?_
      intro prepared ready ranPrepare promised obeyedReady
      exact ends_checkMethods prepared 0 methods promised functions
        (closed.next (.visit (.methods [] ran ranPrepare))) obeyedReady
  termination_by structural stmt

theorem ends_checkElse {watched : Bool} (elseBlock : Option Block) {state : CheckState}
    (whole : ∀ block ∈ elseBlock, ∀ stmt ∈ block.body, (Part.stmt stmt).InfersWhole opens)
    (closed : ∀ block, elseBlock = some block →
      Moment.Closed opens (.check (.stmts block.body) (state.entered .branch)))
    (obeyed : (promising opens).Obeyed watched state) :
    (promising opens).Ends watched (fun _ => True) (checkElse elseBlock state) := by
  cases elseBlock with
  | none =>
      rw [checkElse]
      exact ⟨trivial, obeyed⟩
  | some block =>
      rw [checkElse]
      refine (Ends.within rfl (keeps_checkBody block) (ends_checkBody block (whole block rfl)
        (closed block rfl) (obeyed.entered rfl))).bind ?_
      exact fun _ last _ _ obeyedLast => ⟨trivial, obeyedLast⟩
  termination_by structural elseBlock

theorem ends_checkReturned {watched : Bool} (value : Option Expr) {state : CheckState}
    (whole : ∀ expr ∈ value, (Part.expr expr).InfersWhole opens)
    (closed : ∀ expr, value = some expr → Moment.Closed opens (.check (.expr expr) state))
    (obeyed : (promising opens).Obeyed watched state) :
    (promising opens).Ends watched (Ty.Found opens) (checkReturned value state) := by
  cases value with
  | none =>
      rw [checkReturned]
      exact ⟨Ty.found_void, obeyed⟩
  | some expr =>
      rw [checkReturned]
      exact ends_checkExpr expr (whole expr rfl) (closed expr rfl) obeyed
  termination_by structural value

theorem ends_checkBody {watched : Bool} (block : Block) {state : CheckState}
    (whole : ∀ stmt ∈ block.body, (Part.stmt stmt).InfersWhole opens)
    (closed : Moment.Closed opens (.check (.stmts block.body) state))
    (obeyed : (promising opens).Obeyed watched state) :
    (promising opens).Ends watched (fun _ => True) (checkBody block state) := by
  rcases block with ⟨position, body⟩
  rw [checkBody]
  exact ends_checkStmts body whole closed obeyed
  termination_by structural block

theorem ends_checkStmts {watched : Bool} (body : List Stmt) {state : CheckState}
    (whole : ∀ stmt ∈ body, (Part.stmt stmt).InfersWhole opens)
    (closed : Moment.Closed opens (.check (.stmts body) state))
    (obeyed : (promising opens).Obeyed watched state) :
    (promising opens).Ends watched (fun _ => True) (checkStmts body state) := by
  cases body with
  | nil =>
      rw [checkStmts]
      exact ⟨trivial, obeyed⟩
  | cons stmt rest =>
      rw [checkStmts]
      rcases List.forall_mem_cons.mp whole with ⟨wholeFirst, wholeRest⟩
      refine (ends_checkStmt stmt wholeFirst closed.firstStmt obeyed).bind ?_
      intro _ after ran _ obeyedAfter
      exact ends_checkStmts rest wholeRest (closed.laterStmts ran) obeyedAfter
  termination_by structural body

theorem ends_checkFnDecl {watched : Bool} (declaration : FnDecl) {state : CheckState}
    (whole : declaration.InfersWhole opens)
    (closed : Moment.Closed opens (.check (.stmt (.fnDecl declaration)) state))
    (obeyed : (promising opens).Obeyed watched state) :
    (promising opens).Ends watched (fun _ => True)
      (checkFnDecl declaration (state.movedTo declaration.position)) := by
  rcases declaration with ⟨position, id, name, signature, body⟩
  rw [checkFnDecl]
  have moved := obeyed.movedTo position
  refine (upholds_scopes _ moved).bind fun stack _ ran _ _ => ?_
  cases (EStateM.Result.ok.inj ran).2
  refine Ends.afterRequire moved (Ends.afterMentions moved (Ends.afterFollow moved fun _ _ => ?_))
  have promised : Ty.Promised opens name (.function signature) := whole.signature
  refine (upholds_define name promised _ moved).bind fun _ declared defined _ obeyedDeclared => ?_
  refine (ends_prepare whole.signature.promised promised_no_template obeyedDeclared
    (fun inside seeks => closed.next (.function defined seeks))
    fun inside closedInside => ends_searchBody body whole.body closedInside).bind ?_
  intro prepared ready ranPrepare promisedPrepared _
  cases state_of_inferResult ranPrepare
  have bound : Ty.Promised opens name (.function prepared) :=
    promisedAs_prepared whole.signature (settles_of_prepareSignature ranPrepare) promisedPrepared
  refine (upholds_update name bound _ obeyedDeclared).bind fun _ _ ran _ obeyedUpdated => ?_
  cases (EStateM.Result.ok.inj ran).2
  refine (ends_checkFunction promisedPrepared promised_no_template obeyedUpdated
    (closed.next (.visit (.function [] defined ranPrepare)))
    fun inside closedInside => ends_checkBody body whole.body closedInside).bind ?_
  intro resolved last _ found obeyedLast
  exact ((upholds_replaceFunction name prepared (found.promisedAs name)).bind fun _ _ =>
    upholds_addFunction id found) last obeyedLast
  termination_by structural declaration

theorem ends_prepareMethods {watched : Bool} (template : Template) (index : Nat)
    (methods : List FnDecl) {state : CheckState} (promised : template.Promised opens)
    (declares : template.Declares index methods)
    (whole : ∀ method ∈ methods, method.InfersWhole opens)
    (closed : Moment.Closed opens (.check (.signatures template index methods) state))
    (obeyed : (promising opens).Obeyed watched state) :
    (promising opens).Ends watched (Template.Promised opens)
      (prepareMethods template index methods state) := by
  cases methods with
  | nil =>
      rw [prepareMethods]
      exact ⟨promised, obeyed⟩
  | cons method rest =>
      rcases List.forall_mem_cons.mp whole with ⟨wholeFirst, wholeRest⟩
      rcases method with ⟨position, id, name, signature, body⟩
      rw [prepareMethods]
      have members (declared : Template) (same : declared ∈ some template) :
          declared.Promised opens := Option.some.inj same ▸ promised
      refine Ends.afterMentions obeyed ?_
      refine (ends_prepare wholeFirst.signature.promised members obeyed
        (fun inside seeks => closed.next (.method seeks))
        fun inside closedInside => ends_searchBody body wholeFirst.body closedInside).bind ?_
      intro prepared ready ranPrepare promisedPrepared _
      cases state_of_inferResult ranPrepare
      have settles := Template.settles_of_declared declares.head
        (settles_of_prepareSignature ranPrepare)
      refine (upholds_updateMethod index promised promisedPrepared
        (fun isOpen found isFound => (settles found isFound).isOpen isOpen) _ obeyed).bind ?_
      intro updated after ran promisedUpdated obeyedAfter
      rcases EStateM.Result.ok.inj ran with ⟨rfl, rfl⟩
      exact ends_prepareMethods _ (index + 1) rest promisedUpdated declares.tail.setMethod wholeRest
        (closed.next (.visit (.laterSignatures rest [] ranPrepare))) obeyedAfter
  termination_by structural methods

theorem ends_checkMethods {watched : Bool} (template : Template) (index : Nat)
    (methods : List FnDecl) {state : CheckState} (promised : template.Promised opens)
    (whole : ∀ method ∈ methods, method.InfersWhole opens)
    (closed : Moment.Closed opens (.check (.methods template index methods) state))
    (obeyed : (promising opens).Obeyed watched state) :
    (promising opens).Ends watched (fun _ => True) (checkMethods template index methods state) := by
  cases methods with
  | nil =>
      rw [checkMethods]
      exact ⟨trivial, obeyed⟩
  | cons method rest =>
      rcases List.forall_mem_cons.mp whole with ⟨wholeFirst, wholeRest⟩
      have prepared := promised_preparedMethod index promised wholeFirst
      rcases method with ⟨position, id, name, signature, body⟩
      rw [checkMethods]
      have members (declared : Template) (same : declared ∈ some template) :
          declared.Promised opens := Option.some.inj same ▸ promised
      refine (ends_checkFunction prepared members obeyed
        (closed.next (.visit (.method template index _ rest state [])))
        fun inside closedInside => ends_checkBody body wholeFirst.body closedInside).bind ?_
      intro resolved last ranFunction found obeyedLast
      refine (upholds_updateMethod index promised found.promised
        (by simp [found.isInfer_eq_false]) _ obeyedLast).bind ?_
      intro updated after ran promisedUpdated obeyedAfter
      rcases EStateM.Result.ok.inj ran with ⟨rfl, rfl⟩
      refine (upholds_addFunction id found _ obeyedAfter).bind fun _ _ ran _ obeyedRecorded => ?_
      cases (EStateM.Result.ok.inj ran).2
      exact ends_checkMethods _ (index + 1) rest promisedUpdated wholeRest
        (closed.next (.visit (.laterMethods rest [] ranFunction))) obeyedRecorded
  termination_by structural methods

theorem ends_searchBody (block : Block) {state : CheckState}
    (whole : ∀ stmt ∈ block.body, (Part.stmt stmt).InfersWhole opens)
    (closed : Moment.Closed opens (.search block.body state))
    (obeyed : (promising opens).Obeyed false state) :
    (promising opens).Ends false (FoundOption opens) (searchBody block state) := by
  rcases block with ⟨position, body⟩
  rw [searchBody]
  exact ends_searchStmts body whole closed obeyed
  termination_by structural block

theorem ends_searchStmts (body : List Stmt) {state : CheckState}
    (whole : ∀ stmt ∈ body, (Part.stmt stmt).InfersWhole opens)
    (closed : Moment.Closed opens (.search body state))
    (obeyed : (promising opens).Obeyed false state) :
    (promising opens).Ends false (FoundOption opens) (searchStmts body state) := by
  cases body with
  | nil =>
      rw [searchStmts]
      exact ⟨nofun, obeyed⟩
  | cons stmt rest =>
      rw [searchStmts]
      rcases List.forall_mem_cons.mp whole with ⟨wholeFirst, wholeRest⟩
      refine (ends_searchStmt stmt wholeFirst closed obeyed).bind ?_
      intro found after ran holds obeyedAfter
      cases found with
      | none => exact ends_searchStmts rest wholeRest (closed.next (.later ran)) obeyedAfter
      | some type => exact ⟨holds, obeyedAfter⟩
  termination_by structural body

theorem ends_searchStmt (stmt : Stmt) {rest : List Stmt} {state : CheckState}
    (whole : (Part.stmt stmt).InfersWhole opens)
    (closed : Moment.Closed opens (.search (stmt :: rest) state))
    (obeyed : (promising opens).Obeyed false state) :
    (promising opens).Ends false (FoundOption opens) (searchStmt stmt state) := by
  have operand {expr : Expr} (member : expr ∈ stmt.operands) :
      (Part.expr expr).InfersWhole opens := whole.held (.stmtOperand member)
  have nested {block : Block} (among : block ∈ stmt.blocks) (inner : Stmt)
      (member : inner ∈ block.body) : (Part.stmt inner).InfersWhole opens :=
    whole.held (.nested among member)
  have atPlace := obeyed.movedTo stmt.position
  have moved {action : Checker (Option Ty)}
      (ends : (promising opens).Ends false (FoundOption opens)
        (action (state.movedTo stmt.position))) :
      (promising opens).Ends false (FoundOption opens)
        ((moveTo stmt.position >>= fun _ => action) state) := by
    rw [bind_of_ok (moveTo_apply _ _)]
    exact ends
  -- A block is searched in a scope that binds nothing yet.
  have inBlock {block : Block} {before : CheckState}
      (obeyedBefore : (promising opens).Obeyed false before)
      (ends : (promising opens).Ends false (FoundOption opens)
        (searchBody block (before.entered .block))) :
      (promising opens).Ends false (FoundOption opens)
        (searchBlock none (searchBody block) before) := by
    refine Ends.searchBlock obeyedBefore nofun fun inside ran _ => ?_
    cases (EStateM.Result.ok.inj ran).2
    exact ends
  cases stmt with
  | returning position value =>
      rw [searchStmt]
      refine moved ((ends_checkReturned value (fun expr among => operand ?_) (fun expr same => ?_)
        atPlace).bind fun type last _ found obeyedLast => ?_)
      · exact Option.mem_toList.mpr among
      · cases same
        exact closed.next (.returned position expr rest state)
      · exact ⟨fun _ same => Option.some.inj same ▸ found, obeyedLast⟩
  | varDecl position id name declared initializer =>
      rw [searchStmt]
      have typed : (promising opens).Ends false (Ty.Found opens)
          ((if declared.isInfer then checkExpr initializer else resolve declared)
            (state.movedTo position)) := by
        split
        · rename_i isOpen
          cases Ty.eq_infer_of_isInfer isOpen
          exact ends_checkExpr initializer (operand List.mem_cons_self)
            (closed.next (.initializer position id name initializer rest state)) atPlace
        · rename_i known
          exact upholds_resolveFound (whole.self.resolve_left known) _ atPlace
      refine moved (typed.attempt.bind fun type after _ found obeyedAfter => ?_)
      exact ((upholds_defineFound name
        fun initial member => (found initial member).promised name).bind
          fun _ _ => upholds_pure nofun) after obeyedAfter
  | fnDecl declaration =>
      have function := whole.function
      rcases declaration with ⟨position, id, name, signature, body⟩
      rw [searchStmt]
      refine moved ((ends_prepare function.signature.promised promised_no_template atPlace
        (fun inside seeks => closed.next (.innerFunction seeks))
        fun inside closedInside => ends_searchBody body function.body closedInside).bind ?_)
      intro prepared ready ranPrepare promised obeyedReady
      have bound : Ty.Promised opens name (.function prepared) :=
        promisedAs_prepared function.signature (settles_of_prepareSignature ranPrepare) promised
      exact ((upholds_defineFound name fun _ same => Option.some.inj same ▸ bound).bind
        fun _ _ => upholds_pure nofun) ready obeyedReady
  | block content =>
      rw [searchStmt]
      have closedBlock := closed.next (.block content rest state)
      exact moved (inBlock atPlace
        (ends_searchBody content (nested List.mem_cons_self) closedBlock (atPlace.entered rfl)))
  | ifElse position condition thenBlock elseBlock =>
      rw [searchStmt]
      have closedThen := closed.next (.thenBlock position condition thenBlock elseBlock rest state)
      refine moved ((inBlock atPlace (ends_searchBody thenBlock
        (nested List.mem_cons_self) closedThen (atPlace.entered rfl))).bind ?_)
      intro found between ran holds obeyedBetween
      cases found with
      | some type => exact ⟨holds, obeyedBetween⟩
      | none =>
          refine ends_searchElse elseBlock (fun block among => nested ?_) (fun block same => ?_)
            obeyedBetween
          · exact List.mem_cons_of_mem _ (Option.mem_toList.mpr among)
          · cases same
            exact closed.next (.elseBlock ran)
  | whileLoop position condition body =>
      rw [searchStmt]
      have closedBody := closed.next (.whileBody position condition body rest state)
      exact moved (inBlock atPlace
        (ends_searchBody body (nested List.mem_cons_self) closedBody (atPlace.entered rfl)))
  | range position name first last step body =>
      rw [searchStmt]
      refine moved (Ends.searchBlock atPlace (fun entry same => ?_) fun inside defined => ?_)
      · cases same
        exact nofun
      · exact ends_searchBody body (nested List.mem_cons_self) (closed.next (.rangeBody defined))
  | each position name iterable body =>
      rw [searchStmt]
      refine moved ((ends_checkExpr iterable (operand List.mem_cons_self)
        (closed.next (.iterable position name iterable body rest state)) atPlace).bind ?_)
      intro type between ran found obeyedBetween
      refine Ends.afterFollow obeyedBetween fun element typed => ?_
      cases Rule.eq_of_iterated typed
      have foundElement : element.Found opens := found
      refine Ends.searchBlock obeyedBetween (fun entry same => ?_) fun inside defined => ?_
      · cases same
        exact foundElement.promised name
      · exact ends_searchBody body (nested List.mem_cons_self)
          (closed.next (.eachBody ran defined))
  | expression position expression => exact moved ⟨nofun, atPlace⟩
  | halt position => exact moved ⟨nofun, atPlace⟩
  | skip position => exact moved ⟨nofun, atPlace⟩
  | echo position expression => exact moved ⟨nofun, atPlace⟩
  | templateDecl position name attributes methods => exact moved ⟨nofun, atPlace⟩
  termination_by structural stmt

theorem ends_searchElse (elseBlock : Option Block) {state : CheckState}
    (whole : ∀ block ∈ elseBlock, ∀ stmt ∈ block.body, (Part.stmt stmt).InfersWhole opens)
    (closed : ∀ block, elseBlock = some block →
      Moment.Closed opens (.search block.body (state.entered .block)))
    (obeyed : (promising opens).Obeyed false state) :
    (promising opens).Ends false (FoundOption opens) (searchElse elseBlock state) := by
  cases elseBlock with
  | none =>
      rw [searchElse]
      exact ⟨nofun, obeyed⟩
  | some block =>
      rw [searchElse]
      refine Ends.searchBlock obeyed nofun fun inside ran obeyedInside => ?_
      cases (EStateM.Result.ok.inj ran).2
      exact ends_searchBody block (whole block rfl) (closed block rfl) obeyedInside
  termination_by structural elseBlock

end

end ScriptCheck.Promising
