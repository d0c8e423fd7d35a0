import Calculator.Proofs.Expression.WellFormed

/-!
Where the tokens of a postfix order come from.

Every token of the source is numbered by its place. The postfix order is an arrangement of
the numbered tokens without the parentheses, in which whatever stands in front of a number
or a name stood in front of it in the source as well (`IsArrangement`). So numbers and names
keep their order, and no operator goes in front of an operand that preceded it.

The conversion is followed with the places of the waiting entries, which lie in front of all
that is still to come. Main statement: `postfixOrder_arranges`, which also says in terms of
counts when there is no postfix order (`closes_iff_counts`).
-/

namespace Calculator.Expression

variable {α : Type} {registry : Registry α}

/-! ### Balance in terms of counts -/

namespace Token

def opensGroup : Token α → Bool
  | .openParen => true
  | .number _ | .identifier _ | .operator _ | .function _ | .closeParen => false

def closesGroup : Token α → Bool
  | .closeParen => true
  | .number _ | .identifier _ | .operator _ | .function _ | .openParen => false

end Token

/-- No beginning closes more groups than are open, and in the end all are closed. -/
def ClosesByCount (groups : Nat) (tokens : List (Token α)) : Prop :=
  (∀ front, front <+: tokens →
    front.countP Token.closesGroup ≤ groups + front.countP Token.opensGroup) ∧
  groups + tokens.countP Token.opensGroup = tokens.countP Token.closesGroup

theorem forall_prefix_cons {β : Type} {p : List β → Prop} {item : β} {rest : List β} :
    (∀ front, front <+: item :: rest → p front) ↔
      p [] ∧ ∀ front, front <+: rest → p (item :: front) := by
  constructor
  · intro all
    exact ⟨all [] List.nil_prefix,
      fun front start => all _ (List.cons_prefix_cons.mpr ⟨rfl, start⟩)⟩
  · rintro ⟨atNil, others⟩ front start
    cases front with
    | nil => exact atNil
    | cons first front =>
        obtain ⟨rfl, startRest⟩ := List.cons_prefix_cons.mp start
        exact others front startRest

/-- One token changes how many groups are open. -/
theorem closesByCount_cons {groups later : Nat} {token : Token α} {rest : List (Token α)}
    (opened : later + token.closesGroup.toNat = groups + token.opensGroup.toNat) :
    ClosesByCount groups (token :: rest) ↔ ClosesByCount later rest := by
  rw [ClosesByCount, ClosesByCount, forall_prefix_cons]
  simp only [countP_cons_toNat]
  constructor
  · rintro ⟨⟨-, others⟩, last⟩
    exact ⟨fun front start => by have := others front start; omega, by omega⟩
  · rintro ⟨others, last⟩
    exact ⟨⟨by simp, fun front start => by have := others front start; omega⟩, by omega⟩

/-- The groups of a sequence are closed properly exactly if its counts say so. -/
theorem closes_iff_counts {groups : Nat} {tokens : List (Token α)} :
    Closes groups tokens ↔ ClosesByCount groups tokens := by
  fun_induction Closes groups tokens with
  | case1 groups => simp [ClosesByCount]
  | case2 groups rest ih => rw [ih, closesByCount_cons rfl]
  | case3 rest =>
      refine ⟨False.elim, fun counted => ?_⟩
      have tooMany := counted.1 [.closeParen] (List.cons_prefix_cons.mpr ⟨rfl, List.nil_prefix⟩)
      simp [Token.closesGroup, Token.opensGroup] at tooMany
  | case4 groups rest ih => rw [ih, closesByCount_cons rfl]
  | case5 groups value rest ih => rw [ih, closesByCount_cons rfl]
  | case6 groups symbol rest ih => rw [ih, closesByCount_cons rfl]
  | case7 groups symbol rest ih => rw [ih, closesByCount_cons rfl]
  | case8 groups name rest ih => rw [ih, closesByCount_cons rfl]

/-- Parentheses are unbalanced if some beginning closes more groups than it opens, or if the
totals differ. -/
theorem not_balanced_iff {tokens : List (Token α)} :
    ¬ Balanced tokens ↔
      (∃ front, front <+: tokens ∧
        front.countP Token.opensGroup < front.countP Token.closesGroup) ∨
      tokens.countP Token.opensGroup ≠ tokens.countP Token.closesGroup := by
  rw [Balanced, closes_iff_counts, ClosesByCount, not_and_or]
  simp

/-- There is no postfix order exactly if parentheses are unbalanced, and this is the only
error. -/
theorem convert_eq_error_iff {tokens : List (Token α)} {failure : EvalError} :
    convert registry [] tokens = .error failure ↔
      ¬ Balanced tokens ∧ failure = .operandMismatch := by
  by_cases balanced : Balanced tokens
  · obtain ⟨output, converted, -⟩ :
      ∃ output, convert registry [] tokens = .ok output ∧
        output.Perm (symbolsOf tokens ++ appliedTokens []) := convert_of_closes balanced
    simp [converted, balanced]
  · have unbalanced : ¬ Closes (List.count Pending.group []) tokens := balanced
    simp [convert_of_not_closes unbalanced, balanced, eq_comm]

/-! ### Numbered tokens -/

/-- The numbered tokens that are no parentheses. -/
def placedSymbols (source : List (Token α × Nat)) : List (Token α × Nat) :=
  source.filter fun entry => !entry.1.isParenthesis

def placedToken (entry : Pending × Nat) : Token α × Nat :=
  (entry.1.token, entry.2)

/-- The numbered entries that are applied some time, as tokens. -/
def placedApplied (waiting : List (Pending × Nat)) : List (Token α × Nat) :=
  (waiting.filter (·.1 ≠ .group)).map placedToken

/-- The numbered tokens are those of the source and of the entries that wait, and what stands
in front of a number or a name has a smaller number. -/
structure IsArrangement (waiting : List (Pending × Nat))
    (source arrangement : List (Token α × Nat)) : Prop where
  perm : arrangement.Perm (placedSymbols source ++ placedApplied waiting)
  keeps : arrangement.Pairwise fun earlier later =>
    later.1.isAtom = true → earlier.2 < later.2

variable {waiting : List (Pending × Nat)} {source arrangement : List (Token α × Nat)}

theorem not_isAtom_token (entry : Pending) : (entry.token : Token α).isAtom = false := by
  cases entry <;> rfl

/-- Numbers and names come from the source. -/
theorem IsArrangement.mem_source (arranged : IsArrangement waiting source arrangement)
    {entry : Token α × Nat} (mem : entry ∈ arrangement) (atom : entry.1.isAtom = true) :
    entry ∈ source := by
  rcases List.mem_append.mp (arranged.perm.mem_iff.mp mem) with inSource | inWaiting
  · exact List.mem_of_mem_filter inSource
  · obtain ⟨other, -, rfl⟩ := List.mem_map.mp inWaiting
    rw [placedToken, not_isAtom_token] at atom
    cases atom

/-- A number or a name goes out at once. -/
theorem IsArrangement.pass (arranged : IsArrangement waiting source arrangement)
    {entry : Token α × Nat} (symbol : entry.1.isParenthesis = false)
    (first : ∀ other ∈ source, entry.2 < other.2) :
    IsArrangement waiting (entry :: source) (entry :: arrangement) := by
  constructor
  · have kept : placedSymbols (entry :: source) = entry :: placedSymbols source :=
      List.filter_cons_of_pos (by rw [symbol]; rfl)
    rw [kept]
    exact arranged.perm.cons entry
  · refine List.pairwise_cons.mpr ⟨fun later mem atom => ?_, arranged.keeps⟩
    exact first later (arranged.mem_source mem atom)

/-- An operator or a function that waits is one that is still to come. -/
theorem IsArrangement.setAside {entry : Pending × Nat}
    (arranged : IsArrangement (entry :: waiting) source arrangement)
    (applied : entry.1 ≠ .group) :
    IsArrangement waiting (placedToken entry :: source) arrangement := by
  refine ⟨?_, arranged.keeps⟩
  have symbol : ((placedToken entry).1 : Token α).isParenthesis = false := by
    obtain ⟨entry, place⟩ := entry
    cases entry with
    | group => exact absurd rfl applied
    | operator symbol => rfl
    | function symbol => rfl
  have inSource : placedSymbols (placedToken entry :: source) =
      placedToken entry :: placedSymbols source :=
    List.filter_cons_of_pos (by rw [symbol]; rfl)
  have inWaiting : (placedApplied (entry :: waiting) : List (Token α × Nat)) =
      placedToken entry :: placedApplied waiting := by
    simp [placedApplied, applied]
  rw [inSource]
  exact (inWaiting ▸ arranged.perm).trans List.perm_middle

/-- What goes out before the rest is converted stands in front of it. -/
theorem IsArrangement.release {released kept : List (Pending × Nat)}
    (arranged : IsArrangement kept source arrangement)
    (applied : ∀ entry ∈ released, entry.1 ≠ .group)
    (behind : ∀ entry ∈ released, ∀ other ∈ source, entry.2 < other.2) :
    IsArrangement (released ++ kept) source (released.map placedToken ++ arrangement) := by
  constructor
  · apply perm_of_released arranged.perm
    have all : released.filter (·.1 ≠ .group) = released :=
      List.filter_eq_self.mpr fun entry mem => decide_eq_true (applied entry mem)
    rw [placedApplied, List.filter_append, all, List.map_append]
    rfl
  · refine List.pairwise_append.mpr ⟨?_, arranged.keeps, ?_⟩
    · refine List.pairwise_map.mpr (List.pairwise_of_forall fun _ later atom => ?_)
      rw [placedToken, not_isAtom_token] at atom
      cases atom
    · rintro _ mem later inRest atom
      obtain ⟨entry, inReleased, rfl⟩ := List.mem_map.mp mem
      exact behind entry inReleased later (arranged.mem_source inRest atom)

/-- Closing a group takes the latest group off the stack and divides the rest. -/
theorem eq_append_of_closeGroup? {pending released kept : List Pending}
    (closed : closeGroup? pending = some (released, kept)) :
    ∃ inner outer, pending = inner ++ .group :: outer ∧ released ++ kept = inner ++ outer := by
  fun_induction closeGroup? pending generalizing released kept with
  | case1 => cases closed
  | case2 symbol rest =>
      cases closed
      exact ⟨[], .function symbol :: rest, rfl, rfl⟩
  | case3 rest =>
      cases closed
      exact ⟨[], rest, rfl, rfl⟩
  | case4 waiting rest noCall noGroup ih =>
      obtain ⟨⟨first, second⟩, closedRest, same⟩ := Option.map_eq_some_iff.mp closed
      cases same
      obtain ⟨inner, outer, split, parts⟩ := ih closedRest
      exact ⟨waiting :: inner, outer, congrArg _ split, congrArg _ parts⟩

/-- When a group is closed, the entries keep their numbers. -/
theorem exists_placed_of_closeGroup? {released kept : List Pending}
    (closed : closeGroup? (waiting.map Prod.fst) = some (released, kept)) :
    ∃ placedReleased placedKept, placedReleased.map Prod.fst = released ∧
      placedKept.map Prod.fst = kept ∧
      (placedApplied waiting : List (Token α × Nat)) =
        placedApplied (placedReleased ++ placedKept) ∧
      ∀ entry ∈ placedReleased ++ placedKept, entry ∈ waiting := by
  obtain ⟨inner, outer, split, parts⟩ := eq_append_of_closeGroup? closed
  obtain ⟨placedInner, tail, rfl, rfl, tailSplit⟩ := List.map_eq_append_iff.mp split
  obtain ⟨⟨_, opening⟩, placedOuter, rfl, rfl, rfl⟩ := List.map_eq_cons_iff.mp tailSplit
  rw [← List.map_append] at parts
  obtain ⟨placedReleased, placedKept, divided, rfl, rfl⟩ := List.map_eq_append_iff.mp parts.symm
  refine ⟨placedReleased, placedKept, rfl, rfl, ?_, ?_⟩
  · rw [← divided]
    simp [placedApplied]
  · rw [← divided]
    intro entry mem
    rcases List.mem_append.mp mem with inInner | inOuter
    · exact List.mem_append_left _ inInner
    · exact List.mem_append_right _ (List.mem_cons_of_mem _ inOuter)

/-- The source is numbered upwards, and the entries that wait have smaller numbers. -/
structure IsNumbered (waiting : List (Pending × Nat)) (source : List (Token α × Nat)) : Prop where
  ascending : source.Pairwise fun entry other => entry.2 < other.2
  behind : ∀ entry ∈ waiting, ∀ other ∈ source, entry.2 < other.2

namespace IsNumbered

variable {entry : Token α × Nat}

theorem head (numbered : IsNumbered waiting (entry :: source)) :
    ∀ other ∈ source, entry.2 < other.2 :=
  (List.pairwise_cons.mp numbered.ascending).1

theorem tail (numbered : IsNumbered waiting (entry :: source)) : IsNumbered waiting source :=
  ⟨(List.pairwise_cons.mp numbered.ascending).2, fun waits mem other inSource =>
    numbered.behind waits mem other (List.mem_cons_of_mem _ inSource)⟩

theorem push (numbered : IsNumbered waiting (entry :: source)) (waits : Pending) :
    IsNumbered ((waits, entry.2) :: waiting) source :=
  ⟨numbered.tail.ascending, List.forall_mem_cons.mpr ⟨numbered.head, numbered.tail.behind⟩⟩

theorem subset (numbered : IsNumbered waiting source) {others : List (Pending × Nat)}
    (among : others ⊆ waiting) : IsNumbered others source :=
  ⟨numbered.ascending, fun waits mem => numbered.behind waits (among mem)⟩

end IsNumbered

theorem ne_group_of_mem_takeWhile {symbol : List Char} {entry : Pending × Nat}
    (mem : entry ∈ waiting.takeWhile fun entry => isReleasedBy registry symbol entry.1) :
    entry.1 ≠ .group := by
  intro same
  have goesOut : isReleasedBy registry symbol entry.1 = true :=
    List.all_eq_true.mp List.all_takeWhile entry mem
  rw [same] at goesOut
  cases goesOut

/-- The postfix order arranges the source and what waits in front of it. -/
theorem exists_arrangement {output : List (Token α)} (numbered : IsNumbered waiting source)
    (converted : convert registry (waiting.map Prod.fst) (source.map Prod.fst) = .ok output) :
    ∃ arrangement, arrangement.map Prod.fst = output ∧
      IsArrangement waiting source arrangement := by
  induction source generalizing waiting output with
  | nil =>
      rw [List.map_nil, convert] at converted
      split at converted
      · cases converted
      · rename_i noGroup
        cases converted
        have nothing : IsArrangement (α := α) [] [] [] := ⟨.nil, .nil⟩
        have applied : ∀ entry ∈ waiting, entry.1 ≠ .group :=
          fun entry mem same => noGroup (same ▸ List.mem_map_of_mem mem)
        have arranged := nothing.release applied numbered.behind
        rw [List.append_nil, List.append_nil] at arranged
        exact ⟨_, by simp [placedToken], arranged⟩
  | cons entry rest ih =>
      obtain ⟨token, place⟩ := entry
      rw [List.map_cons] at converted
      cases token with
      | number value =>
          obtain ⟨output, convertedRest, rfl⟩ := exists_of_map_eq_ok converted
          obtain ⟨arrangement, rfl, arranged⟩ := ih numbered.tail convertedRest
          exact ⟨(.number value, place) :: arrangement, rfl, arranged.pass rfl numbered.head⟩
      | identifier name =>
          obtain ⟨output, convertedRest, rfl⟩ := exists_of_map_eq_ok converted
          obtain ⟨arrangement, rfl, arranged⟩ := ih numbered.tail convertedRest
          exact ⟨(.identifier name, place) :: arrangement, rfl, arranged.pass rfl numbered.head⟩
      | function symbol =>
          obtain ⟨arrangement, whole, arranged⟩ := ih (numbered.push (.function symbol)) converted
          exact ⟨arrangement, whole, arranged.setAside (by simp)⟩
      | openParen =>
          obtain ⟨arrangement, whole, arranged⟩ := ih (numbered.push .group) converted
          exact ⟨arrangement, whole, arranged.perm, arranged.keeps⟩
      | operator symbol =>
          let isReleased (entry : Pending × Nat) : Bool := isReleasedBy registry symbol entry.1
          obtain ⟨output, convertedRest, rfl⟩ := exists_of_map_eq_ok converted
          have kept : (waiting.map Prod.fst).dropWhile (isReleasedBy registry symbol) =
              (waiting.dropWhile isReleased).map Prod.fst := List.dropWhile_map
          have released : (waiting.map Prod.fst).takeWhile (isReleasedBy registry symbol) =
              (waiting.takeWhile isReleased).map Prod.fst := List.takeWhile_map
          rw [kept] at convertedRest
          have numberedKept := numbered.subset (List.dropWhile_suffix isReleased).subset
          obtain ⟨arrangement, rfl, arranged⟩ :=
            ih (numberedKept.push (.operator symbol)) convertedRest
          have applied : ∀ entry ∈ waiting.takeWhile isReleased, entry.1 ≠ .group :=
            fun entry mem => ne_group_of_mem_takeWhile mem
          have whole := (arranged.setAside (by simp)).release applied
            (numbered.subset (List.takeWhile_prefix isReleased).subset).behind
          rw [List.takeWhile_append_dropWhile] at whole
          refine ⟨_, ?_, whole⟩
          rw [released]
          simp [placedToken]
      | closeParen =>
          rw [convert] at converted
          split at converted
          · cases converted
          · rename_i released kept closed
            obtain ⟨output, convertedRest, rfl⟩ := exists_of_map_eq_ok converted
            obtain ⟨placedReleased, placedKept, rfl, rfl, same, others⟩ :=
              exists_placed_of_closeGroup? closed
            have numberedBoth : IsNumbered (placedReleased ++ placedKept) rest :=
              numbered.tail.subset others
            obtain ⟨arrangement, rfl, arranged⟩ :=
              ih (numberedBoth.subset (List.subset_append_right ..)) convertedRest
            have applied : ∀ entry ∈ placedReleased, entry.1 ≠ .group := fun entry mem same =>
              (perm_of_closeGroup? closed).1 (same ▸ List.mem_map_of_mem mem)
            have whole := arranged.release applied
              (numberedBoth.subset (List.subset_append_left ..)).behind
            refine ⟨_, by simp [placedToken], ?_, whole.keeps⟩
            rw [same]
            exact whole.perm

/-! ### The postfix order of a text -/

/-- The numbers in a numbered list ascend. -/
theorem pairwise_zipIdx {β : Type} (items : List β) :
    items.zipIdx.Pairwise fun entry other => entry.2 < other.2 := by
  have ascending : (items.zipIdx.map Prod.snd).Pairwise (· < ·) := by
    rw [List.zipIdx_map_snd]
    exact List.pairwise_lt_range'
  exact List.pairwise_map.mp ascending

/-- Numbers and names keep their order. -/
theorem IsArrangement.filter_isAtom
    (ordered : source.Pairwise fun entry other => entry.2 < other.2)
    (arranged : IsArrangement [] source arrangement) :
    (arrangement.map Prod.fst).filter Token.isAtom = (source.map Prod.fst).filter Token.isAtom := by
  let isAtom (entry : Token α × Nat) : Bool := entry.1.isAtom
  have atoms : (placedSymbols source).filter isAtom = source.filter isAtom := by
    rw [placedSymbols, List.filter_filter]
    apply List.filter_congr
    rintro ⟨token, place⟩ -
    cases token <;> rfl
  have perm : (arrangement.filter isAtom).Perm (source.filter isAtom) := by
    rw [← atoms]
    apply List.Perm.filter
    simpa [placedApplied] using arranged.perm
  have ascending : (arrangement.filter isAtom).Pairwise fun entry other => entry.2 < other.2 :=
    (arranged.keeps.filter isAtom).imp_of_mem fun _ mem keeps => keeps (List.mem_filter.mp mem).2
  have same := perm.eq_of_pairwise (fun a b _ _ before behind => absurd before behind.asymm)
    ascending (ordered.filter isAtom)
  rw [List.filter_map, List.filter_map]
  exact congrArg (List.map Prod.fst) same

/-- The conversion loses nothing and refuses exactly unbalanced parentheses. There is no
postfix order if and only if some beginning of the tokens closes more groups than it opens,
or the totals differ, and no other error occurs. A postfix order has no parenthesis and is a
permutation of the other tokens; it keeps numbers and names in their order; and with every
token numbered by its place in the source, it has in front of each number and name only what
the source has in front of it, so that an operator or a function comes after every number and
name that precedes it. -/
theorem postfixOrder_arranges [Numeral α] (registry : Registry α) (text : List Char) :
    let tokens := tokensOf registry text
    ((∃ failure, postfixOrder registry text = .error failure) ↔
      (∃ front, front <+: tokens ∧
        front.countP Token.opensGroup < front.countP Token.closesGroup) ∨
      tokens.countP Token.opensGroup ≠ tokens.countP Token.closesGroup) ∧
    (∀ failure, postfixOrder registry text = .error failure → failure = .operandMismatch) ∧
    ∀ output, postfixOrder registry text = .ok output →
      (∀ token ∈ output, token.isParenthesis = false) ∧
      output.Perm (tokens.filter fun token => !token.isParenthesis) ∧
      output.filter Token.isAtom = tokens.filter Token.isAtom ∧
      ∃ arrangement : List (Token α × Nat), arrangement.map Prod.fst = output ∧
        arrangement.Perm (tokens.zipIdx.filter fun entry => !entry.1.isParenthesis) ∧
        arrangement.Pairwise fun earlier later =>
          later.1.isAtom = true → earlier.2 < later.2 := by
  intro tokens
  have failed_iff (failure : EvalError) : postfixOrder registry text = .error failure ↔
      ¬ Balanced tokens ∧ failure = .operandMismatch := convert_eq_error_iff
  refine ⟨?_, fun failure failed => ((failed_iff failure).mp failed).2, ?_⟩
  · rw [← not_balanced_iff]
    simp [failed_iff]
  · intro output converted
    obtain ⟨-, perm⟩ := convert_eq_ok converted
    have numbered : tokens.zipIdx.map Prod.fst = tokens := List.zipIdx_map_fst 0 tokens
    have ordered := pairwise_zipIdx tokens
    have run : convert registry [] (tokens.zipIdx.map Prod.fst) = .ok output := by
      rw [numbered]
      exact converted
    obtain ⟨arrangement, rfl, arranged⟩ : ∃ arrangement, arrangement.map Prod.fst = output ∧
        IsArrangement [] tokens.zipIdx arrangement :=
      exists_arrangement ⟨ordered, by simp⟩ run
    refine ⟨?_, perm, ?_, arrangement, rfl, ?_, arranged.keeps⟩
    · intro token mem
      simpa using (List.mem_filter.mp (perm.mem_iff.mp mem)).2
    · rw [arranged.filter_isAtom ordered, numbered]
    · simpa [placedApplied, placedSymbols] using arranged.perm

/-- A product whose second factor stands in parentheses, and a text that closes a group before
it opens one. -/
theorem postfixOrder_arranges_product :
    let registry := Builtin.registry (Config.standard (α := Float))
    let text := "2 * (3 - sqrt x)".toList
    let tokens := tokensOf registry text
    (∃ output, postfixOrder registry text = .ok output ∧
      output.filter Token.isAtom = tokens.filter Token.isAtom ∧
      ∃ arrangement : List (Token Float × Nat), arrangement.map Prod.fst = output ∧
        arrangement.Pairwise fun earlier later =>
          later.1.isAtom = true → earlier.2 < later.2) ∧
    ∃ failure, postfixOrder registry "2) * (3".toList = .error failure := by
  intro registry text tokens
  obtain ⟨failed_iff, -, arranged⟩ := postfixOrder_arranges registry text
  constructor
  · cases converted : postfixOrder registry text with
    | error failure =>
        have unbalanced := not_balanced_iff.mpr (failed_iff.mp ⟨failure, converted⟩)
        exact absurd (by decide +kernel) unbalanced
    | ok output =>
        obtain ⟨-, -, atoms, arrangement, whole, -, keeps⟩ := arranged output converted
        exact ⟨output, rfl, atoms, arrangement, whole, keeps⟩
  · have unbalanced : ¬ Balanced (tokensOf registry "2) * (3".toList) := by decide +kernel
    exact (postfixOrder_arranges registry _).1.mpr (not_balanced_iff.mp unbalanced)

end Calculator.Expression
