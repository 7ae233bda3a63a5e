import Stencil.Proofs.Template.Again
import Stencil.Proofs.Template.Heading

/-!
# Reading a tag in two places

A tag that is read in one place is read in another, as a heading that is put together alike. Only an
assignment can be refused there, to a name that stands for the state of a loop.
-/

namespace Stencil.Template

open Token (Kind)

variable {α β α' β' : Type}

/-- What the one parse makes of the rest of a tag, closing included, the other makes of it in the
other place, unless what was found is blocked there. -/
def Rereads (comparison : Comparison) (blocked : α → Prop) (run run' : List Token) (parse : Parse α)
    (parse' : Parse α') (like : α → α' → Prop) : Prop :=
  ∀ start start' value stop, start.Stands comparison.before (run ++ comparison.rest) →
    start'.Stands comparison.before' (run' ++ comparison.rest') →
    parse comparison.settings start = .ok (value, stop) →
      stop.Stands comparison.before comparison.rest ∧
        (¬blocked value ∧ (∃ value' stop', parse' comparison.settings start' = .ok (value', stop') ∧
            like value value' ∧ stop'.Stands comparison.before' comparison.rest') ∨
          blocked value ∧ Faults (parse' comparison.settings start'))

/-! ## Alike parses alone -/

namespace Alike

variable {comparison : Comparison} {least : Nat} {token token' : Token}
  {run run' left left' : List Token} {parse : Parse α} {parse' : Parse α'} {like : α → α' → Prop}

theorem of_bind_pure (alike : Alike comparison least run run' (parse >>= Pure.pure)
    (parse' >>= Pure.pure) like) : Alike comparison least run run' parse parse' like := by
  rwa [bind_pure, bind_pure] at alike

/-- A token that is asked for. -/
theorem expected (runs : comparison.Runs run run') {kind : Kind} (inner : kind ≠ .tagEnd)
    (what : String) :
    Alike comparison 1 run run' (Template.expect kind what) (Template.expect kind what)
      comparison.same :=
  of_bind_pure (expect runs inner fun _ _ _ _ same _ runs _ => .pure runs same)

theorem expectedName (runs : comparison.Runs run run') (what : String) :
    Alike comparison 1 run run' (Template.expectName what) (Template.expectName what) Eq :=
  of_bind_pure (expectName runs fun _ _ _ _ same runs _ => .pure runs (comparison.value same).symm)

theorem accepted (runs : comparison.Runs run run') {kind : Kind} (inner : kind ≠ .tagEnd) :
    Alike comparison 0 run run' (Template.accept kind) (Template.accept kind) Eq :=
  of_bind_pure (accept runs inner (fun _ _ runs _ => .pure runs rfl) (.pure runs rfl))

theorem next (same : comparison.same token token') (runs : comparison.Runs run run') :
    Alike comparison 1 (token :: run) (token' :: run') Template.nextToken Template.nextToken
      comparison.same :=
  of_bind_pure (nextToken same (.pure runs same))

end Alike

namespace Rereads

variable {comparison : Comparison} {least : Nat} {token token' : Token}
  {run run' : List Token} {parse : Parse α} {parse' : Parse α'} {next : α → Parse β}
  {next' : α' → Parse β'} {like : α → α' → Prop} {fine : β → β' → Prop} {blocked : β → Prop}

theorem bind (begun : Alike comparison least run run' parse parse' like)
    (continued : ∀ value value' left left', like value value' → comparison.Runs left left' →
      left.length + least ≤ run.length →
      Rereads comparison blocked left left' (next value) (next' value') fine) :
    Rereads comparison blocked run run' (parse >>= next) (parse' >>= next') fine := by
  intro start start' value stop stands stands' ran
  obtain ⟨found, between, here, further⟩ := run_bind.mp ran
  obtain ⟨found', between', left, left', ran', holds, runs, taken, standing, standing'⟩ :=
    begun start start' found between stands stands' here
  rw [bind_eq_of_ok ran']
  exact continued found found' left left' holds runs taken between between' value stop standing
    standing' further

/-- What the first parse takes in the one place it takes in the other. -/
theorem takes_bind {left left' : List Token} {value : α} {value' : α'}
    (sound : Takes comparison.settings comparison.before (run ++ comparison.rest) parse value
      comparison.before (left ++ comparison.rest))
    (sound' : Takes comparison.settings comparison.before' (run' ++ comparison.rest') parse' value'
      comparison.before' (left' ++ comparison.rest'))
    (continued : Rereads comparison blocked left left' (next value) (next' value') fine) :
    Rereads comparison blocked run run' (parse >>= next) (parse' >>= next') fine := by
  intro start start' result stop stands stands' ran
  obtain ⟨between, here, standing⟩ := sound start stands
  obtain ⟨between', here', standing'⟩ := sound' start' stands'
  rw [bind_eq_of_ok here] at ran
  rw [bind_eq_of_ok here']
  exact continued between between' result stop standing standing' ran

theorem mono {fine' : β → β' → Prop} {parse : Parse β} {parse' : Parse β'}
    (rereads : Rereads comparison blocked run run' parse parse' fine)
    (better : ∀ value value', fine value value' → fine' value value') :
    Rereads comparison blocked run run' parse parse' fine' := by
  intro start start' value stop stands stands' ran
  obtain ⟨standing, result⟩ := rereads start start' value stop stands stands' ran
  refine ⟨standing, result.imp_left ?_⟩
  rintro ⟨free, value', stop', ran', holds, standing'⟩
  exact ⟨free, value', stop', ran', better value value' holds, standing'⟩

theorem of_error (failed : ∀ start, start.Stands comparison.before (run ++ comparison.rest) →
      ∃ problem, parse comparison.settings start = .error problem) {blocked : α → Prop} :
    Rereads comparison blocked run run' parse parse' like := by
  intro start start' value stop stands stands' ran
  obtain ⟨problem, faulty⟩ := failed start stands
  rw [faulty] at ran
  cases ran

theorem peekKind {next : Kind → Parse β} {next' : Kind → Parse β'}
    (same : comparison.same token token')
    (continued : Rereads comparison blocked (token :: run) (token' :: run') (next token.kind)
      (next' token.kind) fine) :
    Rereads comparison blocked (token :: run) (token' :: run') (Template.peekKind >>= next)
      (Template.peekKind >>= next') fine := by
  by_cases faulty : token.kind = .error
  · exact of_error fun start stands =>
      ⟨_, bind_eq_of_error (bind_eq_of_error (peekToken_of_error faulty stands))⟩
  · have sound' : token'.kind ≠ .error := by rwa [comparison.kind same]
    have peeked : Takes comparison.settings comparison.before' (token' :: run' ++ comparison.rest')
        Template.peekKind token.kind comparison.before' (token' :: run' ++ comparison.rest') := by
      rw [← comparison.kind same]
      exact .peekKind sound'
    exact takes_bind (.peekKind faulty) peeked continued

theorem nextToken {next : Token → Parse β} {next' : Token → Parse β'}
    (same : comparison.same token token')
    (continued : Rereads comparison blocked run run' (next token) (next' token') fine) :
    Rereads comparison blocked (token :: run) (token' :: run') (Template.nextToken >>= next)
      (Template.nextToken >>= next') fine := by
  by_cases faulty : token.kind = .error
  · exact of_error fun start stands => ⟨_, bind_eq_of_error (nextToken_of_error faulty stands)⟩
  · have sound' : token'.kind ≠ .error := by rwa [comparison.kind same]
    exact takes_bind (.nextToken faulty) (.nextToken sound') continued

theorem nextToken_putBack {next : Token → Parse β} {next' : Token → Parse β'}
    {further : Parse β} {further' : Parse β'} (same : comparison.same token token')
    (again : next token = (putBack token >>= fun _ => further))
    (again' : next' token' = (putBack token' >>= fun _ => further'))
    (continued : Rereads comparison blocked (token :: run) (token' :: run') further further' fine) :
    Rereads comparison blocked (token :: run) (token' :: run') (Template.nextToken >>= next)
      (Template.nextToken >>= next') fine := by
  by_cases faulty : token.kind = .error
  · exact of_error fun start stands => ⟨_, bind_eq_of_error (nextToken_of_error faulty stands)⟩
  · have sound' : token'.kind ≠ .error := by rwa [comparison.kind same]
    intro start start' value stop stands stands' ran
    obtain ⟨between, standing, here⟩ := Template.nextToken_putBack faulty again stands
    obtain ⟨between', standing', here'⟩ := Template.nextToken_putBack sound' again' stands'
    rw [here] at ran
    rw [here']
    exact continued between between' value stop standing standing' ran

theorem done {value : β} {value' : β'} (free : ¬blocked value) (holds : fine value value') :
    Rereads comparison blocked [] [] (pure value) (pure value') fine := by
  rintro start start' _ _ stands stands' ⟨⟩
  exact ⟨stands, .inl ⟨free, value', start', rfl, holds, stands'⟩⟩

/-- A tag is read up to its closing. -/
theorem closing (runs : comparison.Runs run run') {value : β} {value' : β'} (free : ¬blocked value)
    (holds : fine value value') :
    Rereads comparison blocked run run'
      (do
        expectClosing
        return value)
      (do
        expectClosing
        return value') fine := by
  cases runs with
  | closing same ends =>
      exact takes_bind (.expectClosing ends) (.expectClosing ((comparison.kind same).trans ends))
        (done free holds)
  | @cons token _ _ _ same inside runs =>
      refine of_error fun start stands => ?_
      by_cases faulty : token.kind = .error
      · have failed : Template.nextToken comparison.settings start = .error _ :=
          nextToken_of_error faulty stands
        have settled : (read : Parse Settings) comparison.settings start = .ok (_, start) := rfl
        exact ⟨_, bind_eq_of_error
          ((bind_eq_of_ok settled).trans (bind_eq_of_error (bind_eq_of_error failed)))⟩
      · obtain ⟨problem, -, failed⟩ := (Refuses.expectClosing faulty inside).bind start stands
        exact ⟨_, failed⟩

end Rereads

/-! ## Statements -/

/-- Statements whose parts are alike. -/
inductive Statement.Like (like : Node → Node → Prop) : Statement → Statement → Prop
  | value {node node' : Node} (alike : like node node') : Like like (.value node) (.value node')
  | assignment {target target' operand operand' : Node} (name : String)
      (alike : like target target') (alike' : like operand operand') :
      Like like (.assignment target.place name operand) (.assignment target'.place name operand')

/-- What can be assigned to in the one place can be assigned to in the other, unless its name is
blocked there. -/
def Assigns (like : Node → Node → Prop) (blocks : String → Bool) : Prop :=
  ∀ {node node' name}, like node node' → assignedName? node = some name →
    assignedName? node' = if blocks name then none else some name

section

variable {comparison : Comparison} {like : Node → Node → Prop} {blocks : String → Bool}
  {allowance other : Nat} {run run' : List Token}

/-- The value of an assignment and the closing behind it. -/
theorem rereads_assignment (allowance : Nat) (likeness : Likeness comparison like)
    {target target' : Node} {token token' : Token} (runs : comparison.Runs run run')
    (enough : 16 * run.length + 10 ≤ other) (same : comparison.same token token')
    (alike : like target target') (assignment : Assignment) (name : String)
    (heading : Statement → Heading) :
    Rereads comparison (fun _ => False) run run'
      (do
        let operand ← expression allowance
        let value := match assignment with
          | .plain => operand
          | .combined op => .binary token.place op target operand
        expectClosing
        return heading (.assignment target.place name value))
      (do
        let operand ← expression other
        let value := match assignment with
          | .plain => operand
          | .combined op => .binary token'.place op target' operand
        expectClosing
        return heading (.assignment target'.place name value))
      fun found found' => ∃ operand operand', found = heading (.assignment target.place name operand) ∧
        found' = heading (.assignment target'.place name operand') ∧ like operand operand' := by
  refine .bind ((similar likeness allowance).expression other runs enough)
    fun operand operand' left left' alike' runs fewer => ?_
  refine .closing runs not_false ⟨_, _, rfl, rfl, ?_⟩
  cases assignment with
  | plain => exact alike'
  | combined op => exact likeness.binary op same alike alike'

/-- A statement and the closing behind it. -/
theorem rereads_statement (likeness : Likeness comparison like) (assigns : Assigns like blocks)
    (runs : comparison.Runs run run') (enough : 16 * run.length + 10 ≤ other)
    (heading : Statement → Heading)
    (assigned : ∀ statement, (heading statement).assigned? = statement.assigned?) :
    Rereads comparison (fun found => ∃ name ∈ found.assigned?, blocks name = true) run run'
      (do
        let statement ← readStatement allowance
        expectClosing
        return heading statement)
      (do
        let statement ← readStatement other
        expectClosing
        return heading statement)
      fun found found' => ∃ statement statement', found = heading statement ∧
        found' = heading statement' ∧ statement.Like like statement' := by
  simp only [readStatement, bind_assoc]
  refine .bind ((similar likeness allowance).expression other runs enough)
    fun target target' left left' alike runs fewer => ?_
  obtain ⟨token, token', behind, behind', same, rfl, rfl, further⟩ := runs.exists_cons
  refine .peekKind same ?_
  cases found : assignment? token.kind with
  | none =>
      refine .closing runs ?_ ⟨.value target, .value target', rfl, rfl, .value alike⟩
      rw [assigned]
      nofun
  | some assignment =>
      have inside : token.kind ≠ .tagEnd := fun ends => by
        rw [ends] at found
        cases found
      simp only [bind_assoc]
      refine .nextToken same ?_
      simp only [List.length_cons] at fewer
      cases named : assignedName? target with
      | none => exact .of_error fun _ _ => ⟨_, rfl⟩
      | some name =>
          have enough' : 16 * behind.length + 10 ≤ other := by omega
          have whole := rereads_assignment allowance likeness (further inside) enough' same alike
            assignment name heading
          have named' := assigns alike named
          simp only [bind_assoc, pure_bind]
          intro start start' value stop stands stands' ran
          obtain ⟨standing, result⟩ := whole start start' value stop stands stands' ran
          obtain ⟨-, value', stop', ran', ⟨operand, operand', rfl, rfl, holds⟩, standing'⟩ :=
            result.resolve_right fun refused => refused.1
          have what := assigned (.assignment target.place name operand)
          refine ⟨standing, ?_⟩
          cases blocked : blocks name with
          | true =>
              rw [blocked, if_pos rfl] at named'
              rw [named']
              refine .inr ⟨⟨name, what, blocked⟩, _, ?_, rfl⟩
              nofun
          | false =>
              rw [blocked, if_neg nofun] at named'
              rw [named']
              simp only [bind_assoc, pure_bind]
              refine .inl ⟨?_, _, stop', ran', ⟨_, _, rfl, rfl, .assignment name alike holds⟩, standing'⟩
              rintro ⟨other, member, blocked'⟩
              obtain rfl : name = other := Option.some.inj (what.symm.trans member)
              rw [blocked] at blocked'
              cases blocked'

/-! ## Bindings and parameters -/

/-- Bindings of the same names to nodes that are alike. -/
def Bound (like : Node → Node → Prop) : List (String × Node) → List (String × Node) → Prop :=
  List.Forall₂ fun binding binding' => binding.1 = binding'.1 ∧ like binding.2 binding'.2

theorem alike_bindings (likeness : Likeness comparison like) (runs : comparison.Runs run run')
    (enough : 16 * run.length + 1 ≤ other) :
    Alike comparison 0 run run' (bindings allowance) (bindings other) (Bound like) := by
  induction allowance generalizing run run' other with
  | zero => exact .tooDeep
  | succ allowance ih =>
      obtain ⟨fewer, rfl⟩ := Nat.exists_eq_add_of_le' (Nat.le_trans (Nat.le_add_left 1 _) enough)
      unfold bindings
      refine (Alike.expectName runs fun token token' left left' same runs taken => ?_).weaken
        (Nat.zero_le 1)
      rw [comparison.value same]
      refine (Alike.expect runs (by decide) fun _ _ behind behind' _ _ runs taken' => ?_).weaken
        (Nat.zero_le 1)
      refine (((similar likeness allowance).expression fewer runs (by omega)).bind
        fun value value' last last' holds runs fewer' => ?_).weaken (Nat.zero_le 1)
      refine Alike.accept runs nofun (fun rest rest' runs accepted => ?_)
        (.pure runs (.cons ⟨rfl, holds⟩ .nil))
      refine (ih runs (by omega)).bind fun others others' _ _ rest runs _ => ?_
      exact .pure runs (.cons ⟨rfl, holds⟩ rest)

theorem alike_moreParameters (runs : comparison.Runs run run')
    (enough : 16 * run.length + 1 ≤ other) :
    Alike comparison 0 run run' (moreParameters allowance) (moreParameters other) Eq := by
  induction allowance generalizing run run' other with
  | zero => exact .tooDeep
  | succ allowance ih =>
      obtain ⟨fewer, rfl⟩ := Nat.exists_eq_add_of_le' (Nat.le_trans (Nat.le_add_left 1 _) enough)
      unfold moreParameters
      refine (Alike.expectName runs fun token token' left left' same runs taken => ?_).weaken
        (Nat.zero_le 1)
      rw [comparison.value same]
      obtain ⟨token, token', behind, behind', same, rfl, rfl, further⟩ := runs.exists_cons
      refine (Alike.nextToken same ?_).weaken (Nat.zero_le 1)
      rw [comparison.kind same]
      simp only [List.length_cons] at taken
      split
      · next found =>
          refine (ih (further (by rw [found]; decide)) (by omega)).bind
            fun others others' _ _ same runs _ => ?_
          exact .pure runs (congrArg (_ :: ·) same)
      · next found => exact .pure (further (by rw [found]; decide)) rfl
      · exact .unexpected

theorem alike_parameters (runs : comparison.Runs run run') (enough : 16 * run.length + 1 ≤ other) :
    Alike comparison 0 run run' (parameters allowance) (parameters other) Eq := by
  unfold parameters
  refine Alike.accept runs nofun (fun left left' runs taken => ?_) (.pure runs rfl)
  refine Alike.accept runs nofun (fun left left' runs taken => .pure runs rfl) ?_
  exact alike_moreParameters runs (by omega)

/-- A template, its bindings and the closing behind them. -/
theorem rereads_target (likeness : Likeness comparison like) (runs : comparison.Runs run run')
    (enough : 16 * run.length + 10 ≤ other) {blocked : Heading → Prop}
    (heading : Node → List (String × Node) → Heading)
    (free : ∀ template bound, ¬blocked (heading template bound)) :
    Rereads comparison blocked run run'
      (do
        let (template, bound) ← target allowance
        return heading template bound)
      (do
        let (template, bound) ← target other
        return heading template bound)
      fun found found' => ∃ template template' bound bound', found = heading template bound ∧
        found' = heading template' bound' ∧ like template template' ∧ Bound like bound bound' := by
  simp only [target, bind_assoc, pure_bind]
  refine .bind ((similar likeness allowance).expression other runs enough)
    fun template template' left left' alike runs fewer => ?_
  refine .bind (.accepted runs nofun) fun given given' behind behind' same runs fewer' => ?_
  subst same
  cases given with
  | false =>
      simp only [if_neg Bool.false_ne_true, bind_assoc, pure_bind]
      exact .closing runs (free _ _) ⟨_, _, _, _, rfl, rfl, alike, .nil⟩
  | true =>
      simp only [if_true, bind_assoc, pure_bind]
      refine .bind (alike_bindings likeness runs (by omega))
        fun bound bound' rest rest' alike' runs _ => ?_
      exact .closing runs (free _ _) ⟨_, _, _, _, rfl, rfl, alike, alike'⟩

/-! ## Headings -/

/-- Headings whose parts are alike. -/
inductive Heading.Like (like : Node → Node → Prop) : Heading → Heading → Prop
  | empty : Like like .empty .empty
  | print (place : Place) {value value' : Node} (alike : like value value') :
      Like like (.print place value) (.print place value')
  | set (place : Place) (name : String) {value value' : Node} (alike : like value value') :
      Like like (.set place name value) (.set place name value')
  | call (place : Place) {statement statement' : Statement} (alike : statement.Like like statement') :
      Like like (.call place statement) (.call place statement')
  | plain (place : Place) {statement statement' : Statement} (alike : statement.Like like statement') :
      Like like (.plain place statement) (.plain place statement')
  | inclusion (place : Place) {template template' : Node} {bound bound' : List (String × Node)}
      (alike : like template template') (alike' : Bound like bound bound') :
      Like like (.inclusion place template bound) (.inclusion place template' bound')
  | conditional (place : Place) {condition condition' : Node} (alike : like condition condition') :
      Like like (.conditional place condition) (.conditional place condition')
  | otherwiseIf (token : Token) {condition condition' : Node} (alike : like condition condition') :
      Like like (.otherwiseIf token condition) (.otherwiseIf token condition')
  | otherwise (token : Token) : Like like (.otherwise token) (.otherwise token)
  | close (token : Token) : Like like (.close token) (.close token)
  | forLoop (place : Place) (element : String) {source source' : Node} (alike : like source source') :
      Like like (.forLoop place element source) (.forLoop place element source')
  | whileLoop (place : Place) {condition condition' : Node} (alike : like condition condition') :
      Like like (.whileLoop place condition) (.whileLoop place condition')
  | macroDef (place : Place) (name : String) (parameters : List String) :
      Like like (.macroDef place name parameters) (.macroDef place name parameters)
  | wrapper (place : Place) {template template' : Node} {bound bound' : List (String × Node)}
      (alike : like template template') (alike' : Bound like bound bound') :
      Like like (.wrapper place template bound) (.wrapper place template' bound')

/-- An expression that is the last part of its tag. -/
theorem rereads_operand (allowance : Nat) (likeness : Likeness comparison like)
    (runs : comparison.Runs run run') (enough : 16 * run.length + 10 ≤ other)
    {blocked : Heading → Prop} {fine : Heading → Heading → Prop} {heading heading' : Node → Heading}
    (free : ∀ value, ¬blocked (heading value))
    (holds : ∀ value value', like value value' → fine (heading value) (heading' value')) :
    Rereads comparison blocked run run'
      (do
        let value ← expression allowance
        expectClosing
        return heading value)
      (do
        let value ← expression other
        expectClosing
        return heading' value)
      fine :=
  .bind ((similar likeness allowance).expression other runs enough)
    fun value value' _ _ alike runs _ => .closing runs (free value) (holds value value' alike)

theorem not_blocked {found : Heading} (none : found.assigned? = none) :
    ¬∃ name ∈ found.assigned?, blocks name = true := by
  rw [none]
  rintro ⟨_, ⟨⟩, _⟩

/-- What stands behind the keyword of a tag. -/
theorem rereads_headingOf (likeness : Likeness comparison like) (assigns : Assigns like blocks)
    (exact : ∀ {token token'}, comparison.same token token' → token = token') {token : Token}
    (same : comparison.same token token) (runs : comparison.Runs run run')
    (keyword : opensHeading token.kind = true) (inside : token.kind ≠ .tagEnd)
    (enough : 16 * run.length + 10 ≤ other) :
    Rereads comparison (fun found => ∃ name ∈ found.assigned?, blocks name = true) run run'
      (headingOf allowance token) (headingOf other token)
      fun found found' => found.Like like found' ∧ found.form = .ofKind token.kind := by
  have enough' : 16 * run.length + 10 ≤ other + 1 := by omega
  unfold headingOf
  cases found : token.kind with
  | tagEnd => exact absurd found inside
  | getWord =>
      exact rereads_operand _ likeness runs enough' (fun _ => not_blocked rfl)
        fun _ _ alike => ⟨.print _ alike, rfl⟩
  | setWord =>
      refine .bind (.expectedName runs _) fun name name' left left' named runs fewer => ?_
      subst named
      refine .bind (.expected runs (by decide) _) fun _ _ behind behind' _ runs fewer' => ?_
      exact rereads_operand _ likeness runs (by omega) (fun _ => not_blocked rfl)
        fun _ _ alike => ⟨.set _ _ alike, rfl⟩
  | callWord =>
      refine (rereads_statement likeness assigns runs enough' (.call token.place)
        fun _ => rfl).mono ?_
      rintro _ _ ⟨statement, statement', rfl, rfl, alike⟩
      exact ⟨.call _ alike, rfl⟩
  | ifWord =>
      exact rereads_operand _ likeness runs enough' (fun _ => not_blocked rfl)
        fun _ _ alike => ⟨.conditional _ alike, rfl⟩
  | unlessWord =>
      exact rereads_operand _ likeness runs enough' (fun _ => not_blocked rfl)
        fun _ _ alike => ⟨.conditional _ (likeness.unary .not same alike), rfl⟩
  | elsifWord =>
      exact rereads_operand _ likeness runs enough' (fun _ => not_blocked rfl)
        fun _ _ alike => ⟨.otherwiseIf _ alike, rfl⟩
  | elseWord => exact .closing runs (not_blocked rfl) ⟨.otherwise _, rfl⟩
  | endWord => exact .closing runs (not_blocked rfl) ⟨.close _, rfl⟩
  | foreachWord =>
      refine .bind (.expectedName runs _) fun name name' left left' named runs fewer => ?_
      subst named
      obtain ⟨separator, _, behind, behind', same', rfl, rfl, further⟩ := runs.exists_cons
      obtain rfl := exact same'
      simp only [List.length_cons] at fewer
      refine .nextToken same' ?_
      by_cases inner : separator.kind = .inWord ∨ separator.kind = .assign
      · simp only [if_pos inner]
        have runs := further (by rcases inner with kind | kind <;> rw [kind] <;> decide)
        exact rereads_operand _ likeness runs (by omega) (fun _ => not_blocked rfl)
          fun _ _ alike => ⟨.forLoop _ _ alike, rfl⟩
      · simp only [if_neg inner]
        exact .of_error fun _ _ => ⟨_, rfl⟩
  | whileWord =>
      exact rereads_operand _ likeness runs enough (fun _ => not_blocked rfl)
        fun _ _ alike => ⟨.whileLoop _ alike, rfl⟩
  | macroWord =>
      refine .bind (.expectedName runs _) fun name name' left left' named runs fewer => ?_
      subst named
      refine .bind (alike_parameters runs (by omega))
        fun names names' behind behind' named runs fewer' => ?_
      subst named
      refine .bind (.expected runs (by decide) _) fun _ _ _ _ _ runs _ => ?_
      exact .closing runs (not_blocked rfl) ⟨.macroDef _ _ _, rfl⟩
  | includeWord =>
      refine (rereads_target likeness runs enough' (.inclusion token.place)
        fun _ _ => not_blocked rfl).mono ?_
      rintro _ _ ⟨template, template', bound, bound', rfl, rfl, alike, alike'⟩
      exact ⟨.inclusion _ alike alike', rfl⟩
  | wrapperWord =>
      refine (rereads_target likeness runs enough' (.wrapper token.place)
        fun _ _ => not_blocked rfl).mono ?_
      rintro _ _ ⟨template, template', bound, bound', rfl, rfl, alike, alike'⟩
      exact ⟨.wrapper _ alike alike', rfl⟩
  | _ =>
      rw [found] at keyword
      cases keyword

/-- The whole of a tag. -/
theorem rereads_heading (likeness : Likeness comparison like) (assigns : Assigns like blocks)
    (exact : ∀ {token token'}, comparison.same token token' → token = token') {token : Token}
    (runs : comparison.Runs (token :: run) run') (enough : 16 * (run.length + 1) + 10 ≤ other) :
    Rereads comparison (fun found => ∃ name ∈ found.assigned?, blocks name = true) (token :: run) run'
      (heading allowance) (heading other)
      fun found found' => found.Like like found' ∧ found.form = .ofKind token.kind := by
  cases runs with
  | closing same ends =>
      obtain rfl := exact same
      have sound : token.kind ≠ .error := by
        rw [ends]
        nofun
      refine .takes_bind (.nextToken sound) (.nextToken sound) ?_
      unfold headingOf
      rw [ends]
      exact .done (not_blocked rfl) ⟨.empty, rfl⟩
  | @cons _ token' _ left' same inside runs =>
      obtain rfl := exact same
      cases keyword : opensHeading token.kind with
      | false =>
          refine .nextToken_putBack same (headingOf_plain keyword _) (headingOf_plain keyword _) ?_
          refine (rereads_statement likeness assigns (.cons same inside runs) ?_ (.plain token.place)
            fun _ => rfl).mono ?_
          · simp only [List.length_cons]
            omega
          · rintro _ _ ⟨statement, statement', rfl, rfl, alike⟩
            exact ⟨.plain _ alike, (Form.ofKind_plain keyword).symm⟩
      | true =>
          exact .nextToken same
            (rereads_headingOf likeness assigns exact same runs keyword inside (by omega))

end

end Stencil.Template
