import SchemaChecks.Pattern.Parser
import SchemaChecks.Proofs.Raises

/-!
How the reading of a pattern can break off without an answer about the pattern.
-/

namespace SchemaChecks.Pattern

/-- What the reading of a pattern breaks off with: groups that nest too deep, a number with too many
digits, too many repetitions, or two alphabets at once. -/
inductive IsFault : Fault → Prop
  | tooDeep : IsFault .tooDeep
  | tooManyDigits {n : Nat} (h : Number.digitLimit < n) : IsFault (.scalar (.tooManyDigits n))
  | repetitionTooLarge : IsFault .repetitionTooLarge
  | mixedAlphabets : IsFault .mixedAlphabets

def IsFailure : Failure Error → Prop
  | .error _ => True
  | .fault f => IsFault f

namespace Parse

abbrev Sound {α : Type} (m : Parse α) : Prop := m.Raises (fun _ => True) IsFailure

variable {α : Type} {fuel depth start : Nat} {flags : Flags}

@[grind ←]
theorem failAt_sound (cause : Cause) (offset : Nat) : (failAt cause offset : Parse α).Sound :=
  StateT.raises_throw trivial

@[grind ←]
theorem fault_sound {f : Fault} (h : IsFault f) : (fault f : Parse α).Sound := StateT.raises_throw h

@[grind ←]
theorem tell_sound : tell.Sound := by
  unfold tell
  grind

@[grind ←]
theorem peek_sound : peek.Sound := by
  unfold peek
  grind

@[grind ←]
theorem checkEnd_sound : checkEnd.Sound := by
  unfold checkEnd
  grind

@[grind ←]
theorem take_sound : take.Sound := by
  unfold take
  grind

@[grind ←]
theorem fail_sound (cause : Cause) (back : Nat) : (fail cause back : Parse α).Sound := by
  unfold fail
  grind

@[grind ←]
theorem accept_sound (c : Char) : (accept c).Sound := by
  unfold accept
  grind

@[grind ←]
theorem takeWhile_sound (p : Char → Bool) (n : Nat) : (takeWhile p n).Sound := by
  induction n with
  | zero => exact StateT.raises_pure _
  | succ n ih =>
    unfold takeWhile
    grind

@[grind ←]
theorem takeUntil_sound (terminator : Char) (what : String) (acc : List Char) :
    (takeUntil terminator what fuel acc).Sound := by
  induction fuel generalizing acc with
  | zero => exact StateT.raises_pure _
  | succ fuel ih =>
    unfold takeUntil
    grind

@[grind ←]
theorem name_sound (terminator : Char) (what : String) : (name terminator what).Sound := by
  unfold name
  grind

/-! ### Groups and escapes -/

@[grind ←]
theorem groupCount_sound : groupCount.Sound := by
  unfold groupCount
  grind

@[grind ←]
theorem closedGroup_sound (index : Nat) : (closedGroup? index).Sound := by
  unfold closedGroup?
  grind

@[grind ←]
theorem checkBehind_sound (index : Nat) : (checkBehind index).Sound := by
  unfold checkBehind
  grind

@[grind ←]
theorem openGroup_sound (groupName : Option String) : (openGroup groupName).Sound := by
  unfold openGroup
  grind

@[grind ←]
theorem closeGroup_sound (index : Nat) (w : Width) : (closeGroup index w).Sound := by
  unfold closeGroup
  grind

@[grind ←]
theorem octalEscape_sound (digits : List Char) : (octalEscape digits).Sound := by
  unfold octalEscape
  grind

@[grind ←]
theorem hexEscape_sound (letter : Char) (width : Nat) : (hexEscape letter width).Sound := by
  unfold hexEscape
  grind

@[grind ←]
theorem namedEscape_sound : namedEscape.Sound := by
  unfold namedEscape
  grind

@[grind ←]
theorem commonEscape_sound (c : Char) : (commonEscape c).Sound := by
  unfold commonEscape literalEscape
  grind

@[grind ←]
theorem setEscape_sound (c : Char) : (setEscape c).Sound := by
  unfold setEscape
  grind

@[grind ←]
theorem groupReference_sound (digits : List Char) : (groupReference digits).Sound := by
  unfold groupReference
  grind

@[grind ←]
theorem numberEscape_sound (c : Char) : (numberEscape c).Sound := by
  unfold numberEscape
  refine .bind peek_sound fun next => ?_
  split
  · split
    · refine .bind (.discard take_sound) fun _ => .bind peek_sound fun third => ?_
      grind
    · exact groupReference_sound _
  · exact groupReference_sound _

@[grind ←]
theorem escape_sound (c : Char) : (escape flags c).Sound := by
  unfold escape
  grind

/-! ### Sets and flags -/

@[grind ←]
theorem setMember_sound (g : Glyph) : (setMember g).Sound := by
  unfold setMember
  grind

@[grind ←]
theorem setItems_sound (acc : List SetItem) : (setItems flags start fuel acc).Sound := by
  induction fuel generalizing acc with
  | zero => exact StateT.raises_pure _
  | succ fuel ih =>
    unfold setItems
    refine .bind take_sound fun this => ?_
    split
    · exact failAt_sound _ _
    · split
      · exact StateT.raises_pure _
      · refine .bind (setMember_sound _) fun first => .bind (accept_sound _) fun ranged => ?_
        split
        · exact ih _
        · refine .bind take_sound fun that => ?_
          split
          · exact failAt_sound _ _
          · split
            · exact StateT.raises_pure _
            · refine .bind (setMember_sound _) fun last => ?_
              grind

@[grind ←]
theorem flagsOn_sound (f : Flag) (acc : List Flag) : (flagsOn fuel f acc).Sound := by
  induction fuel generalizing f acc with
  | zero => exact fault_sound .tooDeep
  | succ fuel ih =>
    unfold flagsOn
    grind

@[grind ←]
theorem flagsOff_sound (f : Flag) (acc : List Flag) : (flagsOff fuel f acc).Sound := by
  induction fuel generalizing f acc with
  | zero => exact fault_sound .tooDeep
  | succ fuel ih =>
    unfold flagsOff
    grind

@[grind ←]
theorem inlineFlags_sound (g : Glyph) : (inlineFlags g).Sound := by
  have inGroup : ∀ on off : List Flag, (if off.contains .template then fail .globalFlagOff 1
      else if on.any off.contains then fail .flagOnAndOff 1
      else pure (.scoped on off) : Parse InlineFlags).Sound := by
    intro on off
    grind
  unfold inlineFlags
  refine StateT.raises_get_bind fun s _ => ?_
  dsimp only
  split
  · refine .bind (flagsOn_sound _ _) fun read => ?_
    split
    · exact StateT.raises_pure _
    · split
      · exact fail_sound _ _
      · split
        · refine .bind take_sound fun next => ?_
          split
          · exact .bind (fail_sound _ _) (inGroup _)
          · split
            · exact .bind (flagsOff_sound _ _) (inGroup _)
            · exact .bind (fail_sound _ _) (inGroup _)
        · exact .bind (StateT.raises_pure _) (inGroup _)
  · rw [pure_bind]
    dsimp only
    split
    · exact fail_sound _ _
    · refine .bind take_sound fun next => ?_
      split
      · exact .bind (fail_sound _ _) (inGroup _)
      · split
        · exact .bind (flagsOff_sound _ _) (inGroup _)
        · exact .bind (fail_sound _ _) (inGroup _)

@[grind ←]
theorem setEverywhere_sound (on : List Flag) : (setEverywhere on).Sound := by
  unfold setEverywhere
  grind

/-! ### Repetitions -/

@[grind ←]
theorem bounds_sound : bounds.Sound := by
  have limit : ∀ digits : List Char, (if digits.isEmpty then pure none
      else if Number.digitLimit < digits.length then
        fault (.scalar (.tooManyDigits digits.length))
      else if manyTimes ≤ valueOf 10 digits then fault .repetitionTooLarge
      else pure (some (valueOf 10 digits)) : Parse (Option Nat)).Sound := by
    intro digits
    split
    · exact StateT.raises_pure _
    · split
      next long => exact fault_sound (.tooManyDigits long)
      next =>
        split
        · exact fault_sound .repetitionTooLarge
        · exact StateT.raises_pure _
  unfold bounds
  refine StateT.raises_get_bind fun before _ => .bind tell_sound fun start => ?_
  refine .bind peek_sound fun next => ?_
  dsimp only
  split
  · exact StateT.raises_pure _
  · refine .bind (takeWhile_sound _ _) fun lo => .bind (accept_sound _) fun ranged => ?_
    split
    · refine .bind (takeWhile_sound _ _) fun hi => .bind (accept_sound _) fun closed => ?_
      split
      · exact .bind (StateT.raises_set trivial) fun _ => StateT.raises_pure _
      · refine .bind (limit _) fun least => .bind (limit _) fun most => ?_
        grind
    · refine .bind (StateT.raises_pure _) fun hi => .bind (accept_sound _) fun closed => ?_
      split
      · exact .bind (StateT.raises_set trivial) fun _ => StateT.raises_pure _
      · refine .bind (limit _) fun least => .bind (limit _) fun most => ?_
        grind

@[grind ←]
theorem repeatLast_sound (least : Nat) (most : Option Nat) (acc : List Item) :
    (repeatLast start least most acc).Sound := by
  unfold repeatLast repetitionKind
  grind

/-! ### Expressions -/

@[grind ←]
theorem skipComment_sound : (skipComment fuel).Sound := by
  induction fuel with
  | zero => exact StateT.raises_pure _
  | succ fuel ih =>
    unfold skipComment
    grind

@[grind ←]
theorem skipRemark_sound : (skipRemark start fuel).Sound := by
  induction fuel with
  | zero => exact StateT.raises_pure _
  | succ fuel ih =>
    unfold skipRemark
    grind

@[grind ←]
theorem checkName_sound (n : List Char) (back : Nat) : (checkName n back).Sound := by
  unfold checkName
  grind

@[grind ←]
theorem conditionGroup_sound : conditionGroup.Sound := by
  unfold conditionGroup
  refine .bind (name_sound _ _) fun n => ?_
  dsimp only
  split
  · grind
  · split
    · split
      · exact fail_sound _ _
      · split
        · exact fail_sound _ _
        · refine StateT.raises_get_bind fun s _ => ?_
          grind
    · exact fail_sound _ _

@[grind ←]
theorem namedReference_sound : (namedReference flags).Sound := by
  unfold namedReference
  refine .bind (name_sound _ _) fun n => .bind (checkName_sound _ _) fun _ => ?_
  dsimp only
  grind

@[grind ←]
theorem escapeItem_sound (c : Char) : (escapeItem flags c).Sound := by
  unfold escapeItem
  grind

@[grind ←]
theorem closeParenthesis_sound : (closeParenthesis start).Sound := by
  unfold closeParenthesis
  grind

structure PartsSound (fuel : Nat) : Prop where
  alternatives (depth : Nat) (flags : Flags) (top first : Bool) :
    (alternatives fuel depth flags top first).Sound
  items (depth : Nat) (flags : Flags) (first : Bool) (acc : List Item) :
    (items fuel depth flags first acc).Sound
  groupBody (depth : Nat) (flags : Flags) (start : Nat) (index : Option Nat) :
    (groupBody fuel depth flags start index).Sound
  assertion (depth : Nat) (flags : Flags) (start : Nat) (ahead negated : Bool) :
    (assertion fuel depth flags start ahead negated).Sound
  condition (depth : Nat) (flags : Flags) (start : Nat) : (condition fuel depth flags start).Sound
  group (depth : Nat) (flags : Flags) (first : Bool) (start : Nat) :
    (group fuel depth flags first start).Sound

section step

variable (parts : PartsSound fuel)
include parts

theorem alternatives_step (top first : Bool) :
    (alternatives (fuel + 1) depth flags top first).Sound := by
  have branches := parts.alternatives depth
  have alternative := parts.items depth
  unfold alternatives
  dsimp only
  grind

theorem items_step (first : Bool) (acc : List Item) :
    (items (fuel + 1) depth flags first acc).Sound := by
  have more := parts.items depth
  have inner := parts.group depth
  unfold items
  refine .bind tell_sound fun start => .bind peek_sound fun next => ?_
  split
  · exact StateT.raises_pure _
  · exact StateT.raises_pure _
  · exact StateT.raises_pure _
  · refine .bind (.discard take_sound) fun _ => ?_
    split
    · exact StateT.raises_pure _
    · exact .bind (escapeItem_sound _) fun _ => more _ _ _
    · have repeated (start least : Nat) (most : Option Nat) : (do
          items fuel depth flags first (← repeatLast start least most acc) : Parse Expr).Sound :=
        .bind (repeatLast_sound _ _ _) fun _ => more _ _ _
      refine .ite (more _ _ _) (.ite ?comment (.ite ?set ?other))
      case comment =>
        exact StateT.raises_get_bind fun s _ => .bind skipComment_sound fun _ => more _ _ _
      case set =>
        refine .bind (accept_sound _) fun negated => StateT.raises_get_bind fun s _ => ?_
        exact .bind (setItems_sound _) fun _ => more _ _ _
      refine .ite (repeated _ _ _) (.ite (repeated _ _ _) (.ite (repeated _ _ _) ?_))
      refine .ite ?bounds (.ite (more _ _ _) (.ite (more _ _ _) (.ite (more _ _ _) ?_)))
      case bounds =>
        refine .bind bounds_sound fun found => ?_
        split
        · exact more _ _ _
        · exact repeated _ _ _
      refine .ite (.bind (inner _ _ _) fun found => ?_) (more _ _ _)
      split <;> exact more _ _ _

theorem groupBody_step (index : Option Nat) :
    (groupBody (fuel + 1) depth flags start index).Sound := by
  unfold groupBody
  cases depth with
  | zero => exact fault_sound .tooDeep
  | succ depth =>
    refine .bind (parts.alternatives _ _ _ _) fun p => .bind closeParenthesis_sound fun _ => ?_
    grind

theorem assertion_step (ahead negated : Bool) :
    (assertion (fuel + 1) depth flags start ahead negated).Sound := by
  unfold assertion
  cases depth with
  | zero => exact fault_sound .tooDeep
  | succ depth =>
    have set (f : Reader → Reader) : (modify f : Parse Unit).Sound :=
      StateT.raises_modify fun _ _ => trivial
    have finish (p : Expr) : (do
        closeParenthesis start
        if negated && p = .empty then pure .never
        else if ahead then pure (.lookAhead negated p)
        else pure (.lookBehind negated p.width p) : Parse Expr).Sound := by
      grind
    have rest (m : Parse Expr) (hm : m.Sound) (c : Bool) : (do
        let p ← m
        if c then modify fun s => { s with behind := none }
        closeParenthesis start
        if negated && p = .empty then pure .never
        else if ahead then pure (.lookAhead negated p)
        else pure (.lookBehind negated p.width p) : Parse Expr).Sound :=
      .bind hm fun p => .ite (.bind (set _) fun _ => finish p) (finish p)
    refine StateT.raises_get_bind fun s _ => .ite ?_ ?_
    · exact .bind (set _) fun _ => rest _ (parts.alternatives _ _ _ _) _
    · exact rest _ (parts.alternatives _ _ _ _) _

theorem condition_step : (condition (fuel + 1) depth flags start).Sound := by
  unfold condition
  cases depth with
  | zero => exact fault_sound .tooDeep
  | succ depth =>
    have branch := parts.items depth
    refine .bind conditionGroup_sound fun index => .bind (checkBehind_sound _) fun _ => ?_
    refine .bind (branch _ _ _) fun yes => .bind (accept_sound _) fun more => ?_
    grind

theorem group_step (first : Bool) : (group (fuel + 1) depth flags first start).Sound := by
  have body := parts.groupBody depth
  have assertion' := parts.assertion depth
  have condition' := parts.condition depth
  unfold group
  refine .bind (accept_sound _) fun extended => ?_
  split
  · grind
  · refine .bind take_sound fun next => ?_
    split
    · exact fail_sound _ _
    · grind
    · grind
    · grind
    · grind
    · grind
    · grind
    · grind
    · grind
    · grind

end step

theorem partsSound (fuel : Nat) : PartsSound fuel := by
  induction fuel with
  | zero =>
    have stops {α : Type} : (fault .tooDeep : Parse α).Sound := fault_sound .tooDeep
    constructor
    · intros; unfold alternatives; exact stops
    · intros; unfold items; exact stops
    · intros; unfold groupBody; exact stops
    · intros; unfold assertion; exact stops
    · intros; unfold condition; exact stops
    · intros; unfold group; exact stops
  | succ fuel ih =>
    exact {
      alternatives := fun _ _ => alternatives_step ih
      items := fun _ _ => items_step ih
      groupBody := fun _ _ _ => groupBody_step ih
      assertion := fun _ _ _ => assertion_step ih
      condition := fun _ _ _ => condition_step ih
      group := fun _ _ first start => group_step ih first }

theorem whole_sound : whole.Sound := by
  unfold whole
  refine .bind checkEnd_sound fun _ => StateT.raises_get_bind fun s _ => ?_
  refine .bind ((partsSound _).alternatives _ _ _ _) fun p => StateT.raises_get_bind fun t _ => ?_
  split
  · exact fault_sound .mixedAlphabets
  · grind

end Parse

/-- A pattern that cannot be read has an error, or one of four faults. -/
theorem compile_raises (pattern : String) : (compile pattern).Raises IsFailure := by
  unfold compile
  dsimp only
  split
  next e h => exact Except.raises_error ((Parse.whole_sound _ trivial).1 e h)
  next => split <;> grind [IsFailure]

end SchemaChecks.Pattern
