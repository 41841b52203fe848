import ByokGrid.FormulaTexts
import ByokGrid.IntegerTexts
import ByokGrid.Store

/-! The printer and the parser of the source language: an expression the parser makes is read
back from the text the printer writes of it. -/

namespace ByokGrid

section Expressions

variable {ν : Type}

mutual

def SourceExpression.nodes : SourceExpression ν → Nat
  | .column _ => 1
  | .literal _ => 1
  | .call _ args => SourceExpression.argumentNodes args + 1

def SourceExpression.argumentNodes : List (SourceExpression ν) → Nat
  | [] => 0
  | argument :: args => argument.nodes + SourceExpression.argumentNodes args

end

variable [SourceRuntime ν]

def SourceValue.withUnsignedZeros : SourceValue ν → SourceValue ν
  | .empty => .empty
  | .text value => .text value
  | .number value => .number (unsignedZero value)
  | .boolean value => .boolean value
  | .timestamp value => .timestamp value
  | .json value => .json (value.mapNumbers unsignedZero)

mutual

def SourceExpression.withUnsignedZeros : SourceExpression ν → SourceExpression ν
  | .column columnId => .column columnId
  | .literal value => .literal value.withUnsignedZeros
  | .call fn args => .call fn (SourceExpression.argumentsWithUnsignedZeros args)

def SourceExpression.argumentsWithUnsignedZeros : List (SourceExpression ν) → List (SourceExpression ν)
  | [] => []
  | argument :: args => argument.withUnsignedZeros :: SourceExpression.argumentsWithUnsignedZeros args

end

def SourceValue.Made : SourceValue ν → Prop
  | .empty | .text _ | .boolean _ => True
  | .number value => SourceRuntime.isFinite value = true
  | .timestamp value => ∃ date, value = .ofString (SourceRuntime.toISOString ν date)
  | .json value => OwnJson value

inductive SourceExpression.Made (columns : List FormulaSourceColumn) : Nat → SourceExpression ν → Prop where
  | column {levels : Nat} {column : FormulaSourceColumn} (h : column ∈ columns) : Made columns (levels + 1) (.column column.id)
  | literal {levels : Nat} {value : SourceValue ν} (h : value.Made) : Made columns (levels + 1) (.literal value)
  | call {levels : Nat} {fn : FormulaFunction} {args : List (SourceExpression ν)}
    (h : ∀ argument ∈ args, Made columns levels argument) : Made columns (levels + 1) (.call fn args)

end Expressions

namespace FormulaParser

section Parser

variable {parser next : FormulaParser}

@[simp] theorem moveTo_rest (parser : FormulaParser) (rest : List Char) : (parser.moveTo rest).rest = rest := rfl

@[simp] theorem moveTo_nodeCount (parser : FormulaParser) (rest : List Char) :
    (parser.moveTo rest).nodeCount = parser.nodeCount := rfl

@[simp] theorem skipWhitespace_nodeCount (parser : FormulaParser) : parser.skipWhitespace.nodeCount = parser.nodeCount := rfl

theorem skipWhitespace_rest (parser : FormulaParser) : parser.skipWhitespace.rest = parser.rest.dropWhile isJsWhitespace := rfl

theorem expect_eq_ok {expected : Char} (h : parser.expect expected = .ok next) :
    parser.rest = expected :: next.rest ∧ next.nodeCount = parser.nodeCount := by
  rw [expect] at h
  split at h
  · rename_i c rest hrest
    split at h
    · rename_i hc
      cases h
      exact ⟨by rw [hrest, hc]; rfl, rfl⟩
    · cases h
  · cases h

theorem node_eq_ok {α : Type} {x y : α} (h : parser.node x = .ok (y, next)) :
    y = x ∧ next.rest = parser.rest ∧ next.nodeCount = parser.nodeCount + 1 ∧ next.nodeCount ≤ MAXIMUM_FORMULA_NODES := by
  rw [node] at h
  split at h
  · cases h
  · cases h
    exact ⟨rfl, rfl, rfl, by simp only; omega⟩

end Parser

section Soundness

variable {ν : Type} [SourceRuntime ν] {columns : List FormulaSourceColumn} {parser next : FormulaParser}
  {expression : SourceExpression ν}

def Counted (parser : FormulaParser) (nodes : Nat) (next : FormulaParser) : Prop :=
  next.nodeCount = parser.nodeCount + nodes ∧ next.nodeCount ≤ MAXIMUM_FORMULA_NODES

theorem resolveColumn_mem {name : JsString} {column : FormulaSourceColumn} (h : resolveColumn columns ν name = .ok column) :
    column ∈ columns := by
  rw [resolveColumn] at h
  split at h
  · rename_i heq
    cases h
    exact List.mem_of_mem_filter (heq ▸ List.mem_singleton_self column)
  · cases h
  · split at h
    · rename_i heq
      cases h
      exact List.mem_of_mem_filter (heq ▸ List.mem_singleton_self column)
    · cases h
    · cases h

variable (parser) in
theorem parseColumn_made {levels : Nat} (h : parseColumn columns parser = .ok (expression, next)) :
    expression.Made columns (levels + 1) ∧ Counted parser expression.nodes next := by
  obtain ⟨opened, hopened, h⟩ := except_bind_eq_ok.mp h
  split at h
  · cases h
  · split at h
    · cases h
    · obtain ⟨column, hcolumn, h⟩ := except_bind_eq_ok.mp h
      obtain ⟨rfl, _, hcount, hbound⟩ := node_eq_ok h
      exact ⟨.column (resolveColumn_mem hcolumn), hcount.trans (by rw [moveTo_nodeCount, (expect_eq_ok hopened).2]; rfl), hbound⟩

theorem parseString_nodeCount {value : JsString} (h : parseString ν parser = .ok (value, next)) :
    next.nodeCount = parser.nodeCount := by
  obtain ⟨opened, hopened, h⟩ := except_bind_eq_ok.mp h
  split at h
  · cases h
  · split at h
    · cases h
      exact (expect_eq_ok hopened).2
    · cases h

variable (parser) in
theorem parseNumber_made {levels : Nat} (h : parseNumber parser = .ok (expression, next)) :
    expression.Made columns (levels + 1) ∧ Counted parser expression.nodes next := by
  rw [parseNumber] at h
  split at h
  · cases h
  · simp only at h
    split at h
    · rename_i hfinite
      obtain ⟨rfl, _, hcount, hbound⟩ := node_eq_ok h
      exact ⟨.literal hfinite, hcount, hbound⟩
    · cases h

theorem constructLiteral_made {constructor : LiteralConstructor} {source : JsString} {value : SourceValue ν}
    (h : constructLiteral constructor source = some value) : value.Made := by
  cases constructor with
  | json =>
    obtain ⟨parsed, hparsed, h⟩ := Option.bind_eq_some_iff.mp h
    obtain ⟨kept, hkept, h⟩ := Option.bind_eq_some_iff.mp h
    cases h
    exact readJsonSchema_own hparsed hkept
  | timestamp =>
    rw [constructLiteral] at h
    split at h
    · obtain ⟨date, _, rfl⟩ := Option.map_eq_some_iff.mp h
      exact ⟨date, rfl⟩
    · cases h

variable (parser) in
theorem parseLiteralConstructor_made {levels : Nat} {constructor : LiteralConstructor}
    (h : parseLiteralConstructor constructor parser = .ok (expression, next)) :
    expression.Made columns (levels + 1) ∧ Counted parser expression.nodes next := by
  obtain ⟨opened, hopened, h⟩ := except_bind_eq_ok.mp h
  obtain ⟨⟨source, passed⟩, hsource, h⟩ := except_bind_eq_ok.mp h
  obtain ⟨closed, hclosed, h⟩ := except_bind_eq_ok.mp h
  split at h
  · cases h
  · rename_i value hvalue
    split at h
    · rename_i result hnode
      cases h
      obtain ⟨rfl, _, hcount, hbound⟩ := node_eq_ok hnode
      refine ⟨.literal (constructLiteral_made hvalue), hcount.trans ?_, hbound⟩
      rw [(expect_eq_ok hclosed).2, skipWhitespace_nodeCount, parseString_nodeCount hsource, skipWhitespace_nodeCount,
        (expect_eq_ok hopened).2, skipWhitespace_nodeCount]
      rfl
    · cases h

def MakesArguments (columns : List FormulaSourceColumn) (levels : Nat)
    (parseArgument : FormulaParser → Except FormulaSourceError (SourceExpression ν × FormulaParser)) : Prop :=
  ∀ parser argument next, parseArgument parser = .ok (argument, next) →
    argument.Made columns levels ∧ Counted parser argument.nodes next

theorem parseRemainingArguments_made {levels fuel : Nat}
    {parseArgument : FormulaParser → Except FormulaSourceError (SourceExpression ν × FormulaParser)}
    (hargument : MakesArguments columns levels parseArgument) {args : List (SourceExpression ν)}
    (h : parseRemainingArguments parseArgument fuel parser = .ok (args, next)) :
    (∀ argument ∈ args, argument.Made columns levels) ∧
      next.nodeCount = parser.nodeCount + SourceExpression.argumentNodes args := by
  induction fuel generalizing parser next args with
  | zero => cases h
  | succ fuel ih =>
    obtain ⟨⟨argument, parsed⟩, hparsed, h⟩ := except_bind_eq_ok.mp h
    obtain ⟨hmade, hcount, _⟩ := hargument _ _ _ hparsed
    simp only at h
    split at h
    · cases h
      refine ⟨fun other hother => ?_, by simpa [SourceExpression.argumentNodes] using hcount⟩
      rw [List.mem_singleton.mp hother]
      exact hmade
    · obtain ⟨separated, hseparated, h⟩ := except_bind_eq_ok.mp h
      obtain ⟨⟨later, closed⟩, hlater, h⟩ := except_bind_eq_ok.mp h
      obtain ⟨hargs, hnodes⟩ := ih hlater
      simp only [pure, Except.pure, Except.ok.injEq, Prod.mk.injEq] at h
      obtain ⟨rfl, rfl⟩ := h
      refine ⟨List.forall_mem_cons.mpr ⟨hmade, hargs⟩, ?_⟩
      rw [hnodes, skipWhitespace_nodeCount, (expect_eq_ok hseparated).2, skipWhitespace_nodeCount, hcount,
        SourceExpression.argumentNodes]
      omega

theorem parseArguments_made {levels : Nat}
    {parseArgument : FormulaParser → Except FormulaSourceError (SourceExpression ν × FormulaParser)}
    (hargument : MakesArguments columns levels parseArgument) {args : List (SourceExpression ν)}
    (h : parseArguments parseArgument parser = .ok (args, next)) :
    (∀ argument ∈ args, argument.Made columns levels) ∧
      next.nodeCount = parser.nodeCount + SourceExpression.argumentNodes args := by
  obtain ⟨opened, hopened, h⟩ := except_bind_eq_ok.mp h
  have hcount : opened.skipWhitespace.nodeCount = parser.nodeCount := (expect_eq_ok hopened).2.trans rfl
  simp only at h
  split at h
  · cases h
    exact ⟨List.forall_mem_nil _, hcount⟩
  · obtain ⟨hargs, hnodes⟩ := parseRemainingArguments_made hargument h
    exact ⟨hargs, by rw [hnodes, hcount]⟩

variable (parser) in
theorem parseIdentifierExpression_made {levels : Nat}
    {parseArgument : FormulaParser → Except FormulaSourceError (SourceExpression ν × FormulaParser)}
    (hargument : MakesArguments columns levels parseArgument)
    (h : parseIdentifierExpression parseArgument parser = .ok (expression, next)) :
    expression.Made columns (levels + 1) ∧ Counted parser expression.nodes next := by
  have hliteral : ∀ {rest : List Char} {value : SourceValue ν}, value.Made →
      (parser.moveTo rest).node (.literal value) = .ok (expression, next) →
      expression.Made columns (levels + 1) ∧ Counted parser expression.nodes next := by
    intro rest value hvalue hnode
    obtain ⟨rfl, _, hcount, hbound⟩ := node_eq_ok hnode
    exact ⟨.literal hvalue, hcount, hbound⟩
  rw [parseIdentifierExpression] at h
  simp only at h
  split at h
  · exact hliteral (show SourceValue.Made (SourceValue.boolean true) from trivial) h
  · split at h
    · exact hliteral (show SourceValue.Made (SourceValue.boolean false) from trivial) h
    · split at h
      · exact hliteral (show SourceValue.Made (SourceValue.empty) from trivial) h
      · split at h
        · exact hliteral (show SourceValue.Made (SourceValue.empty) from trivial) h
        · split at h
          · exact parseLiteralConstructor_made (parser.moveTo _) h
          · split at h
            · exact parseLiteralConstructor_made (parser.moveTo _) h
            · split at h
              · cases h
              · obtain ⟨⟨args, closed⟩, hargs, h⟩ := except_bind_eq_ok.mp h
                obtain ⟨hmade, hnodes⟩ := parseArguments_made hargument hargs
                obtain ⟨rfl, _, hcount, hbound⟩ := node_eq_ok h
                refine ⟨.call hmade, hcount.trans ?_, hbound⟩
                rw [hnodes, moveTo_nodeCount, SourceExpression.nodes, Nat.add_assoc]

theorem parseExpression_made (levels : Nat) : MakesArguments (ν := ν) columns levels (parseExpression columns levels) := by
  induction levels with
  | zero => exact fun _ _ _ h => nomatch h
  | succ levels ih =>
    intro parser expression next h
    rw [parseExpression] at h
    simp only at h
    split at h
    · cases h
    · split at h
      · exact parseColumn_made parser.skipWhitespace h
      · split at h
        · obtain ⟨⟨value, passed⟩, hvalue, h⟩ := except_bind_eq_ok.mp h
          obtain ⟨rfl, _, hcount, hbound⟩ := node_eq_ok h
          refine ⟨.literal trivial, hcount.trans ?_, hbound⟩
          rw [parseString_nodeCount hvalue, skipWhitespace_nodeCount]
          rfl
        · split at h
          · exact parseNumber_made parser.skipWhitespace h
          · split at h
            · exact parseIdentifierExpression_made parser.skipWhitespace ih h
            · cases h

end Soundness

section Reading

variable {ν : Type} [SourceRuntime ν] {columns : List FormulaSourceColumn} {parser : FormulaParser} {tail : List Char}

def Ends (tail : List Char) : Prop :=
  ∀ c ∈ tail.head?, c = ',' ∨ c = ')'

theorem ends_cons {c : Char} (h : c = ',' ∨ c = ')') (cs : List Char) : Ends (c :: cs) := by
  rintro _ ⟨⟩
  exact h

theorem Ends.numberEnd (h : Ends tail) : NumberEnd tail := by
  intro c hc
  rcases h c hc with rfl | rfl <;> decide

def Reads {α : Type} (parser : FormulaParser) (nodes : Nat) (tail : List Char) (value : α)
    (result : Except FormulaSourceError (α × FormulaParser)) : Prop :=
  ∃ next, result = .ok (value, next) ∧ next.rest = tail ∧ next.nodeCount = parser.nodeCount + nodes

theorem skipWhitespace_eq {c : Char} {cs : List Char} (hrest : parser.rest = c :: cs) (hc : isJsWhitespace c = false) :
    parser.skipWhitespace = parser := by
  obtain ⟨index, rest, nodeCount⟩ := parser
  subst hrest
  have hdrop : (c :: cs).dropWhile isJsWhitespace = c :: cs := List.dropWhile_cons_of_neg (by simp [hc])
  simp only [skipWhitespace, moveTo, hdrop, Nat.sub_self, Nat.add_zero]

theorem expect_head {c : Char} {cs : List Char} (hrest : parser.rest = c :: cs) : parser.expect c = .ok (parser.moveTo cs) := by
  rw [expect, hrest]
  exact if_pos rfl

theorem reads_node {α : Type} {passed : FormulaParser} (nodes : Nat) (x : α) (hrest : passed.rest = tail)
    (hcount : passed.nodeCount = parser.nodeCount + nodes) (hbound : parser.nodeCount + (nodes + 1) ≤ MAXIMUM_FORMULA_NODES) :
    Reads parser (nodes + 1) tail x (passed.node x) := by
  refine ⟨{ passed with nodeCount := passed.nodeCount + 1 }, if_neg (by omega), hrest, ?_⟩
  simp only [hcount, Nat.add_assoc]

theorem resolveColumn_name (hnames : (columns.map FormulaSourceColumn.name).Nodup) {column : FormulaSourceColumn}
    (h : column ∈ columns) : resolveColumn columns ν column.name = .ok column := by
  have hfilter : columns.filter (fun other => other.name = column.name) = [column] := by
    induction columns with
    | nil => cases h
    | cons first columns ih =>
      obtain ⟨hfirst, hlater⟩ := List.nodup_cons.mp hnames
      rcases List.mem_cons.mp h with rfl | h
      · have hothers : ∀ other ∈ columns, ¬ decide (other.name = column.name) = true := by
          intro other hother heq
          exact hfirst (List.mem_map.mpr ⟨other, hother, of_decide_eq_true heq⟩)
        rw [List.filter_cons_of_pos (by simp), List.filter_eq_nil_iff.mpr hothers]
      · have hother : first.name ≠ column.name := fun heq => hfirst (List.mem_map.mpr ⟨column, h, heq.symm⟩)
        rw [List.filter_cons_of_neg (by simpa using hother), ih hlater h]
  rw [resolveColumn, hfilter]

theorem chars_formulaColumnReference (name : JsString) : (formulaColumnReference name).chars =
    '[' :: ((name.chars.flatMap fun c => if c = ']' then [']', ']'] else [c]) ++ [']']) := by
  have hunits : ∀ c ∈ name.chars.flatMap fun c => if c = ']' then [']', ']'] else [c], IsUnit c := by
    intro c hc
    obtain ⟨source, hsource, hc⟩ := List.mem_flatMap.mp hc
    split at hc
    · rcases List.mem_cons.mp hc with rfl | hc
      · exact isUnit_of_basic (by decide)
      · rw [List.mem_singleton.mp hc]
        exact isUnit_of_basic (by decide)
    · rw [List.mem_singleton.mp hc]
      exact JsString.isUnit_of_mem_chars hsource
  rw [formulaColumnReference, JsString.chars_append, JsString.chars_append, escapeFormulaColumnName,
    JsString.chars_ofChars hunits, JsString.chars_ofString_basic (JsString.forall_basic (by decide)), JsString.chars_ofString_basic (JsString.forall_basic (by decide))]
  rfl

theorem parseColumn_reference (hnames : (columns.map FormulaSourceColumn.name).Nodup) {column : FormulaSourceColumn}
    (hcolumn : column ∈ columns) (hname : column.name.units ≠ []) (htail : Ends tail)
    (hrest : parser.rest = (formulaColumnReference column.name).chars ++ tail)
    (hbound : parser.nodeCount + 1 ≤ MAXIMUM_FORMULA_NODES) :
    Reads parser 1 tail (.column column.id : SourceExpression ν) (parseColumn columns parser) := by
  have hbracket : tail.head? ≠ some ']' := by
    intro heq
    rcases htail ']' heq with h | h <;> cases h
  have hnonempty : column.name.chars ≠ [] := by
    intro hempty
    exact hname (List.map_eq_nil_iff.mp hempty)
  rw [chars_formulaColumnReference, List.cons_append, List.append_assoc, List.singleton_append] at hrest
  rw [parseColumn, expect_head hrest]
  simp only [bind, Except.bind, moveTo_rest, scanColumn_escaped column.name.chars hbracket, if_neg hnonempty,
    JsString.ofChars_chars, resolveColumn_name hnames hcolumn]
  exact reads_node 0 _ rfl rfl hbound

theorem chars_stringifyText (s : JsString) :
    (stringifyTree (.string s : JsonTree JsString ν)).chars = '"' :: (JsString.quotedUnits s ++ ['"']) :=
  chars_stringifyTree rfl

variable (parser tail) in
theorem parseString_text (s : JsString)
    (hrest : parser.rest = (stringifyTree (.string s : JsonTree JsString ν)).chars ++ tail) :
    Reads parser 0 tail s (parseString ν parser) := by
  have hread := parseJsonTree_stringify (ownJson_string (ν := ν) s)
  have htext : JsString.ofChars ('"' :: (JsString.quotedUnits s ++ ['"'])) = stringifyTree (.string s : JsonTree JsString ν) := rfl
  rw [chars_stringifyText, List.cons_append, List.append_assoc, List.singleton_append] at hrest
  refine ⟨(parser.moveTo (JsString.quotedUnits s ++ '"' :: tail)).moveTo tail, ?_, rfl, rfl⟩
  rw [parseString, expect_head hrest]
  simp only [bind, Except.bind, moveTo_rest, scanString_quoted, htext, hread]
  rfl

theorem parseNumber_text {n : ν} (h : SourceRuntime.isFinite n = true) (htail : Ends tail)
    (hrest : parser.rest = (SourceRuntime.numberToString n).toList ++ tail)
    (hbound : parser.nodeCount + 1 ≤ MAXIMUM_FORMULA_NODES) :
    Reads parser 1 tail (.literal (.number (unsignedZero n)) : SourceExpression ν) (parseNumber parser) := by
  have hread := readNumber_append (SourceRuntime.numberToString_reads n h) htail.numberEnd
  have hvalue : SourceRuntime.parseNumber (SourceRuntime.numberToString n) = unsignedZero n :=
    SourceRuntime.parseNumber_numberToString n h
  rw [parseNumber, hrest, matchNumber_of_readNumber hread]
  simp only [String.ofList_toList, hvalue, isFinite_unsignedZero h, if_true, List.nil_append]
  exact reads_node 0 _ rfl rfl hbound

theorem takeWord (word : List Char) (hword : ∀ c ∈ word, isIdentifierPart c = true) (hrest : parser.rest = word ++ tail)
    (htail : ∀ c ∈ tail.head?, isIdentifierPart c = false) :
    parser.rest.takeWhile isIdentifierPart = word ∧ parser.rest.dropWhile isIdentifierPart = tail := by
  have hend : tail.takeWhile isIdentifierPart = [] ∧ tail.dropWhile isIdentifierPart = tail := by
    cases tail with
    | nil => exact ⟨rfl, rfl⟩
    | cons c tail =>
      have hc : ¬ isIdentifierPart c = true := by simp [htail c rfl]
      exact ⟨List.takeWhile_cons_of_neg hc, List.dropWhile_cons_of_neg hc⟩
  rw [hrest, List.takeWhile_append_of_pos hword, List.dropWhile_append_of_pos hword, hend.1, hend.2, List.append_nil]
  exact ⟨rfl, rfl⟩

theorem Ends.notIdentifier (h : Ends tail) : ∀ c ∈ tail.head?, isIdentifierPart c = false := by
  intro c hc
  rcases h c hc with rfl | rfl <;> decide

variable {parseArgument : FormulaParser → Except FormulaSourceError (SourceExpression ν × FormulaParser)}

theorem parseIdentifier_boolean (value : Bool) (htail : Ends tail)
    (hrest : parser.rest = (if value then "TRUE" else "FALSE").toList ++ tail)
    (hbound : parser.nodeCount + 1 ≤ MAXIMUM_FORMULA_NODES) :
    Reads parser 1 tail (.literal (.boolean value)) (parseIdentifierExpression parseArgument parser) := by
  cases value with
  | true =>
    obtain ⟨htake, hdrop⟩ := takeWord "TRUE".toList (List.all_eq_true.mp (by decide)) hrest htail.notIdentifier
    rw [parseIdentifierExpression, htake, hdrop]
    simp only [if_pos (by decide : "TRUE".toList.map Char.toUpper = "TRUE".toList)]
    exact reads_node 0 _ rfl rfl hbound
  | false =>
    obtain ⟨htake, hdrop⟩ := takeWord "FALSE".toList (List.all_eq_true.mp (by decide)) hrest htail.notIdentifier
    rw [parseIdentifierExpression, htake, hdrop]
    simp only [if_neg (by decide : ¬ "FALSE".toList.map Char.toUpper = "TRUE".toList),
      if_pos (by decide : "FALSE".toList.map Char.toUpper = "FALSE".toList)]
    exact reads_node 0 _ rfl rfl hbound

theorem parseIdentifier_empty (htail : Ends tail) (hrest : parser.rest = "EMPTY".toList ++ tail)
    (hbound : parser.nodeCount + 1 ≤ MAXIMUM_FORMULA_NODES) :
    Reads parser 1 tail (.literal .empty) (parseIdentifierExpression parseArgument parser) := by
  obtain ⟨htake, hdrop⟩ := takeWord "EMPTY".toList (List.all_eq_true.mp (by decide)) hrest htail.notIdentifier
  rw [parseIdentifierExpression, htake, hdrop]
  simp only [if_neg (by decide : ¬ "EMPTY".toList.map Char.toUpper = "TRUE".toList),
    if_neg (by decide : ¬ "EMPTY".toList.map Char.toUpper = "FALSE".toList),
    if_pos (by decide : "EMPTY".toList.map Char.toUpper = "EMPTY".toList)]
  exact reads_node 0 _ rfl rfl hbound

theorem parseLiteralConstructor_text {constructor : LiteralConstructor} {source : JsString} {value : SourceValue ν}
    {start : FormulaParser} (hvalue : constructLiteral constructor source = some value)
    (hcount : start.nodeCount = parser.nodeCount)
    (hrest : start.rest = '(' :: ((stringifyTree (.string source : JsonTree JsString ν)).chars ++ ')' :: tail))
    (hbound : parser.nodeCount + 1 ≤ MAXIMUM_FORMULA_NODES) :
    Reads parser 1 tail (.literal value) (parseLiteralConstructor constructor start) := by
  have hopened : (start.moveTo ((stringifyTree (.string source : JsonTree JsString ν)).chars ++ ')' :: tail)).skipWhitespace =
      start.moveTo ((stringifyTree (.string source : JsonTree JsString ν)).chars ++ ')' :: tail) := by
    have hquote : (start.moveTo ((stringifyTree (.string source : JsonTree JsString ν)).chars ++ ')' :: tail)).rest =
        '"' :: (JsString.quotedUnits source ++ ['"'] ++ ')' :: tail) := by
      rw [moveTo_rest, chars_stringifyText]
      rfl
    exact skipWhitespace_eq hquote (by decide)
  obtain ⟨passed, hpassed, hpassedRest, hpassedCount⟩ := parseString_text (ν := ν)
    (start.moveTo ((stringifyTree (.string source : JsonTree JsString ν)).chars ++ ')' :: tail)) (')' :: tail) source
    (moveTo_rest _ _)
  have hclosed : Reads parser 1 tail (.literal value : SourceExpression ν) ((passed.moveTo tail).node (.literal value)) :=
    reads_node 0 _ rfl (hpassedCount.trans hcount) hbound
  obtain ⟨next, hnext, hnextRest, hnextCount⟩ := hclosed
  refine ⟨next, ?_, hnextRest, hnextCount⟩
  rw [parseLiteralConstructor, skipWhitespace_eq hrest (by decide), expect_head hrest]
  simp only [bind, Except.bind, hopened, hpassed, skipWhitespace_eq hpassedRest (by decide), expect_head hpassedRest, hvalue, hnext]

theorem parseIdentifier_timestamp (date : TimeValue)
    (hrest : parser.rest = "TIMESTAMP".toList ++ '(' ::
      ((stringifyTree (.string (.ofString (SourceRuntime.toISOString ν date)) : JsonTree JsString ν)).chars ++ ')' :: tail))
    (hbound : parser.nodeCount + 1 ≤ MAXIMUM_FORMULA_NODES) :
    Reads parser 1 tail (.literal (.timestamp (.ofString (SourceRuntime.toISOString ν date))))
      (parseIdentifierExpression parseArgument parser) := by
  obtain ⟨htake, hdrop⟩ := takeWord "TIMESTAMP".toList (List.all_eq_true.mp (by decide)) hrest (by rintro _ ⟨⟩; decide)
  have hoffset : hasOffset (JsString.ofString (SourceRuntime.toISOString ν date)).chars = true := by
    obtain ⟨cs, hcs⟩ := SourceRuntime.toISOString_utc (ν := ν) date
    have hreverse : (JsString.ofString (SourceRuntime.toISOString ν date)).chars.reverse =
        'Z' :: (cs.flatMap JsString.charUnits).reverse := by
      rw [JsString.chars_ofString, hcs, List.flatMap_append, List.reverse_append]
      rfl
    rw [hasOffset, hreverse]
    rfl
  have hvalue : constructLiteral .timestamp (.ofString (SourceRuntime.toISOString ν date)) =
      some (.timestamp (.ofString (SourceRuntime.toISOString ν date)) : SourceValue ν) := by
    rw [constructLiteral, if_pos hoffset, SourceRuntime.parseDate_toISOString, Option.map_some]
  rw [parseIdentifierExpression, htake, hdrop]
  simp only [if_neg (by decide : ¬ "TIMESTAMP".toList.map Char.toUpper = "TRUE".toList),
    if_neg (by decide : ¬ "TIMESTAMP".toList.map Char.toUpper = "FALSE".toList),
    if_neg (by decide : ¬ "TIMESTAMP".toList.map Char.toUpper = "EMPTY".toList),
    if_neg (by decide : ¬ "TIMESTAMP".toList.map Char.toUpper = "NULL".toList),
    if_pos (by decide : "TIMESTAMP".toList.map Char.toUpper = "TIMESTAMP".toList)]
  exact parseLiteralConstructor_text hvalue (moveTo_nodeCount _ _) (moveTo_rest _ _) hbound

theorem parseIdentifier_json {value : JsonTree JsString ν} (hown : OwnJson value)
    (hrest : parser.rest = "JSON".toList ++ '(' ::
      ((stringifyTree (.string (stringifyTree value) : JsonTree JsString ν)).chars ++ ')' :: tail))
    (hbound : parser.nodeCount + 1 ≤ MAXIMUM_FORMULA_NODES) :
    Reads parser 1 tail (.literal (.json (value.mapNumbers unsignedZero))) (parseIdentifierExpression parseArgument parser) := by
  obtain ⟨htake, hdrop⟩ := takeWord "JSON".toList (List.all_eq_true.mp (by decide)) hrest (by rintro _ ⟨⟩; decide)
  have hvalue : constructLiteral .json (stringifyTree value) = some (.json (value.mapNumbers unsignedZero)) := by
    simp only [constructLiteral, parseJsonTree_stringify hown, readJsonSchema_eq hown.mapNumbers, Option.bind_eq_bind,
      Option.bind_some, pure]
  rw [parseIdentifierExpression, htake, hdrop]
  simp only [if_neg (by decide : ¬ "JSON".toList.map Char.toUpper = "TRUE".toList),
    if_neg (by decide : ¬ "JSON".toList.map Char.toUpper = "FALSE".toList),
    if_neg (by decide : ¬ "JSON".toList.map Char.toUpper = "EMPTY".toList),
    if_neg (by decide : ¬ "JSON".toList.map Char.toUpper = "NULL".toList),
    if_neg (by decide : ¬ "JSON".toList.map Char.toUpper = "TIMESTAMP".toList),
    if_pos (by decide : "JSON".toList.map Char.toUpper = "JSON".toList)]
  exact parseLiteralConstructor_text hvalue (moveTo_nodeCount _ _) (moveTo_rest _ _) hbound

structure StartsExpression (c : Char) : Prop where
  visible : isJsWhitespace c = false
  notClosing : c ≠ ')'
  notEqual : c ≠ '='

variable (columns) in
structure ReadsBack (levels : Nat) (expression : SourceExpression ν) : Prop where
  head : ∀ text, formatFormulaExpression (columnNames columns) expression = .ok text →
    ∃ c cs, text.chars = c :: cs ∧ StartsExpression c
  reads : ∀ text, formatFormulaExpression (columnNames columns) expression = .ok text → ∀ (parser : FormulaParser) tail,
    parser.rest = text.chars ++ tail → Ends tail → parser.nodeCount + expression.nodes ≤ MAXIMUM_FORMULA_NODES →
    Reads parser expression.nodes tail expression.withUnsignedZeros (parseExpression columns levels parser)

theorem chars_joinArguments (argument next : JsString) (args : List JsString) :
    (joinArguments (argument :: next :: args)).chars = argument.chars ++ ',' :: ' ' :: (joinArguments (next :: args)).chars := by
  rw [joinArguments, JsString.chars_append, JsString.chars_append, JsString.chars_ofString_basic (JsString.forall_basic (by decide)), List.append_assoc]
  rfl

theorem formatArguments_cons {argument : SourceExpression ν} {args : List (SourceExpression ν)} {texts : List JsString}
    (h : formatArguments (columnNames columns) (argument :: args) = .ok texts) : ∃ text later, texts = text :: later ∧
      formatFormulaExpression (columnNames columns) argument = .ok text ∧ formatArguments (columnNames columns) args = .ok later := by
  rw [formatArguments] at h
  obtain ⟨text, htext, h⟩ := except_bind_eq_ok.mp h
  obtain ⟨later, hlater, h⟩ := except_bind_eq_ok.mp h
  cases h
  exact ⟨text, later, rfl, htext, hlater⟩

theorem joinArguments_head {levels : Nat} {argument : SourceExpression ν} (hargument : ReadsBack columns levels argument)
    {args : List (SourceExpression ν)} {texts : List JsString}
    (h : formatArguments (columnNames columns) (argument :: args) = .ok texts) :
    ∃ c cs, (joinArguments texts).chars = c :: cs ∧ StartsExpression c := by
  obtain ⟨text, later, rfl, htext, _⟩ := formatArguments_cons h
  obtain ⟨c, cs, hchars, hc⟩ := hargument.head text htext
  cases later with
  | nil => exact ⟨c, cs, hchars, hc⟩
  | cons next later => exact ⟨c, _, by rw [chars_joinArguments, hchars]; rfl, hc⟩

variable (parser) in
theorem parseRemainingArguments_texts {levels : Nat} (fuel : Nat) {args : List (SourceExpression ν)} {argument : SourceExpression ν}
    {texts : List JsString} (hargs : ∀ argument' ∈ argument :: args, ReadsBack columns levels argument')
    (htexts : formatArguments (columnNames columns) (argument :: args) = .ok texts)
    (hrest : parser.rest = (joinArguments texts).chars ++ ')' :: tail) (hfuel : parser.rest.length ≤ fuel)
    (hbound : parser.nodeCount + SourceExpression.argumentNodes (argument :: args) ≤ MAXIMUM_FORMULA_NODES) :
    Reads parser (SourceExpression.argumentNodes (argument :: args)) tail
      (SourceExpression.argumentsWithUnsignedZeros (argument :: args))
      (parseRemainingArguments (parseExpression columns levels) fuel parser) := by
  induction args generalizing argument texts fuel parser with
  | nil =>
    obtain ⟨text, later, rfl, htext, hlater⟩ := formatArguments_cons htexts
    cases hlater
    cases fuel with
    | zero =>
      rw [hrest, List.length_append, List.length_cons] at hfuel
      omega
    | succ fuel =>
      obtain ⟨parsed, hparsed, hparsedRest, hparsedCount⟩ := (hargs argument List.mem_cons_self).reads text htext parser
        (')' :: tail) hrest (ends_cons (.inr rfl) tail) hbound
      refine ⟨parsed.moveTo tail, ?_, rfl, hparsedCount⟩
      simp only [parseRemainingArguments, hparsed, bind, Except.bind, skipWhitespace_eq hparsedRest (by decide), hparsedRest]
      rfl
  | cons next args ih =>
    obtain ⟨text, later, rfl, htext, hlater⟩ := formatArguments_cons htexts
    obtain ⟨nextText, laterTexts, rfl, _, _⟩ := formatArguments_cons hlater
    obtain ⟨c, cs, hhead, hc⟩ := joinArguments_head (hargs next (List.mem_cons_of_mem _ List.mem_cons_self)) hlater
    rw [chars_joinArguments, List.append_assoc, List.cons_append, List.cons_append] at hrest
    cases fuel with
    | zero =>
      rw [hrest, List.length_append, List.length_cons] at hfuel
      omega
    | succ fuel =>
      rw [SourceExpression.argumentNodes] at hbound
      obtain ⟨parsed, hparsed, hparsedRest, hparsedCount⟩ := (hargs argument List.mem_cons_self).reads text htext parser _ hrest
        (ends_cons (.inl rfl) _) (by omega)
      have hspace : (parsed.moveTo (' ' :: ((joinArguments (nextText :: laterTexts)).chars ++ ')' :: tail))).skipWhitespace.rest =
          (joinArguments (nextText :: laterTexts)).chars ++ ')' :: tail := by
        rw [skipWhitespace_rest, moveTo_rest, List.dropWhile_cons_of_pos (by decide), hhead, List.cons_append,
          List.dropWhile_cons_of_neg (by simp [hc.visible])]
      have hshort : ((joinArguments (nextText :: laterTexts)).chars ++ ')' :: tail).length ≤ fuel := by
        rw [hrest, List.length_append, List.length_cons, List.length_cons] at hfuel
        omega
      obtain ⟨closed, hclosed, hclosedRest, hclosedCount⟩ := ih
        (parsed.moveTo (' ' :: ((joinArguments (nextText :: laterTexts)).chars ++ ')' :: tail))).skipWhitespace fuel
        (fun other hother => hargs other (List.mem_cons_of_mem _ hother)) hlater hspace (by rw [hspace]; exact hshort)
        (by rw [skipWhitespace_nodeCount, moveTo_nodeCount, hparsedCount]; omega)
      refine ⟨closed, ?_, hclosedRest, ?_⟩
      · simp only [parseRemainingArguments, hparsed, bind, Except.bind, skipWhitespace_eq hparsedRest (by decide), hparsedRest,
          expect_head hparsedRest, hclosed]
        rfl
      · rw [hclosedCount, skipWhitespace_nodeCount, moveTo_nodeCount, hparsedCount]
        exact Nat.add_assoc _ _ _

variable (parser tail) in
theorem parseArguments_texts {levels : Nat} {args : List (SourceExpression ν)} {texts : List JsString} {start : FormulaParser}
    (hargs : ∀ argument ∈ args, ReadsBack columns levels argument)
    (htexts : formatArguments (columnNames columns) args = .ok texts) (hcount : start.nodeCount = parser.nodeCount)
    (hrest : start.rest = '(' :: ((joinArguments texts).chars ++ ')' :: tail))
    (hbound : parser.nodeCount + SourceExpression.argumentNodes args ≤ MAXIMUM_FORMULA_NODES) :
    Reads parser (SourceExpression.argumentNodes args) tail (SourceExpression.argumentsWithUnsignedZeros args)
      (parseArguments (parseExpression columns levels) start) := by
  rw [parseArguments, skipWhitespace_eq hrest (by decide), expect_head hrest]
  cases args with
  | nil =>
    cases htexts
    have hclosing : (start.moveTo ((joinArguments []).chars ++ ')' :: tail)).rest = ')' :: tail := rfl
    have hopened : (start.moveTo ((joinArguments []).chars ++ ')' :: tail)).skipWhitespace =
        start.moveTo ((joinArguments []).chars ++ ')' :: tail) := skipWhitespace_eq hclosing (by decide)
    refine ⟨(start.moveTo ((joinArguments []).chars ++ ')' :: tail)).moveTo tail, ?_, rfl, hcount⟩
    simp only [bind, Except.bind, hopened]
    rfl
  | cons argument args =>
    obtain ⟨c, cs, hhead, hc⟩ := joinArguments_head (hargs argument List.mem_cons_self) htexts
    have hfirst : (start.moveTo ((joinArguments texts).chars ++ ')' :: tail)).rest = c :: (cs ++ ')' :: tail) := by
      rw [moveTo_rest, hhead]
      rfl
    have hopened : (start.moveTo ((joinArguments texts).chars ++ ')' :: tail)).skipWhitespace =
        start.moveTo ((joinArguments texts).chars ++ ')' :: tail) := skipWhitespace_eq hfirst hc.visible
    obtain ⟨closed, hclosed, hclosedRest, hclosedCount⟩ := parseRemainingArguments_texts
      (start.moveTo ((joinArguments texts).chars ++ ')' :: tail)) _ hargs htexts rfl (Nat.le_succ _)
      (by rw [moveTo_nodeCount, hcount]; exact hbound)
    refine ⟨closed, ?_, hclosedRest, by rw [hclosedCount, moveTo_nodeCount, hcount]⟩
    simp only [bind, Except.bind, hopened]
    split
    · rename_i rest heq
      rw [moveTo_rest, hhead] at heq
      exact absurd (List.cons.inj heq).1 hc.notClosing
    · exact hclosed

theorem parseExpression_word {levels : Nat} {c : Char} {cs : List Char} (hrest : parser.rest = c :: cs)
    (hc : isJsWhitespace c = false ∧ c ≠ '[' ∧ c ≠ '"' ∧ (c = '-' || isDigitUnit c) = false ∧ isIdentifierStart c = true) :
    parseExpression (ν := ν) columns (levels + 1) parser = parseIdentifierExpression (parseExpression columns levels) parser := by
  obtain ⟨hspace, hbracket, hquote, hdigit, hstart⟩ := hc
  rw [parseExpression, skipWhitespace_eq hrest hspace]
  simp only [hrest, if_neg hbracket, if_neg hquote, hdigit, hstart, if_true, Bool.false_eq_true, if_false]

theorem number_startsExpression {c : Char} (h : c = '-' ∨ '0' ≤ c ∧ c ≤ '9') :
    StartsExpression c ∧ c ≠ '[' ∧ c ≠ '"' ∧ (c = '-' || isDigitUnit c) = true := by
  rcases h with rfl | ⟨hlow, hhigh⟩
  · exact ⟨⟨by decide, by decide, by decide⟩, by decide, by decide, by decide⟩
  · have hfirst : 48 ≤ c.toNat := hlow
    have hlast : c.toNat ≤ 57 := hhigh
    have hother : ∀ d : Char, d.toNat < 48 ∨ 57 < d.toNat → c ≠ d := by
      rintro d hd rfl
      omega
    refine ⟨⟨?_, hother _ (by decide), hother _ (by decide)⟩, hother _ (by decide), hother _ (by decide), ?_⟩
    · simp only [isJsWhitespace, Bool.or_eq_false_iff, Bool.and_eq_false_iff, decide_eq_false_iff_not, beq_eq_false_iff_ne]
      omega
    · simp [isDigitUnit, hlow, hhigh]

theorem columnNames_mem {columnId : String} {name : JsString} (h : columnNames columns columnId = some name) :
    ∃ column ∈ columns, column.id = columnId ∧ column.name = name := by
  obtain ⟨column, hfind, rfl⟩ := Option.map_eq_some_iff.mp h
  exact ⟨column, List.mem_reverse.mp (List.mem_of_find?_eq_some hfind), by simpa using List.find?_some hfind, rfl⟩

theorem readsBack_column (hnames : (columns.map FormulaSourceColumn.name).Nodup) (levels : Nat) (columnId : String) :
    ReadsBack columns (levels + 1) (.column columnId : SourceExpression ν) := by
  have hformat : ∀ text, formatFormulaExpression (columnNames columns) (.column columnId : SourceExpression ν) = .ok text →
      ∃ column ∈ columns, column.id = columnId ∧ column.name.units ≠ [] ∧ text = formulaColumnReference column.name := by
    intro text h
    rw [formatFormulaExpression] at h
    split at h
    · cases h
    · rename_i name hname
      obtain ⟨column, hcolumn, hid, rfl⟩ := columnNames_mem hname
      split at h
      · cases h
      · rename_i hunits
        cases h
        exact ⟨column, hcolumn, hid, hunits, rfl⟩
  constructor
  · intro text h
    obtain ⟨column, _, _, _, rfl⟩ := hformat text h
    exact ⟨'[', _, chars_formulaColumnReference column.name, ⟨by decide, by decide, by decide⟩⟩
  · intro text h parser tail hrest htail hbound
    obtain ⟨column, hcolumn, rfl, hunits, rfl⟩ := hformat text h
    have hstart := hrest
    rw [chars_formulaColumnReference, List.cons_append] at hstart
    rw [parseExpression, skipWhitespace_eq hstart (by decide)]
    simp only [hstart, if_true]
    exact parseColumn_reference hnames hcolumn hunits htail hrest hbound

theorem readsBack_literal (levels : Nat) {value : SourceValue ν} (h : value.Made) :
    ReadsBack columns (levels + 1) (.literal value) := by
  have hformat : ∀ text, formatFormulaExpression (columnNames columns) (.literal value) = .ok text → text = formatLiteral value := by
    intro text h
    cases h
    rfl
  suffices hliteral : (∃ c cs, (formatLiteral value).chars = c :: cs ∧ StartsExpression c) ∧
      ∀ (parser : FormulaParser) tail, parser.rest = (formatLiteral value).chars ++ tail → Ends tail →
        parser.nodeCount + 1 ≤ MAXIMUM_FORMULA_NODES →
        Reads parser 1 tail (.literal value.withUnsignedZeros) (parseExpression columns (levels + 1) parser) from
    ⟨fun text htext => hformat text htext ▸ hliteral.1, fun text htext => hformat text htext ▸ hliteral.2⟩
  cases value with
  | empty =>
    have hchars : (formatLiteral (.empty : SourceValue ν)).chars = "EMPTY".toList := JsString.chars_ofString_basic (JsString.forall_basic (by decide))
    rw [hchars]
    refine ⟨⟨'E', _, rfl, ⟨by decide, by decide, by decide⟩⟩, fun parser tail hrest htail hbound => ?_⟩
    rw [parseExpression_word (c := 'E') hrest (by decide)]
    exact parseIdentifier_empty htail hrest hbound
  | text value =>
    have hchars : (formatLiteral (.text value : SourceValue ν)).chars = '"' :: (JsString.quotedUnits value ++ ['"']) :=
      chars_stringifyText value
    refine ⟨⟨'"', _, hchars, ⟨by decide, by decide, by decide⟩⟩, fun parser tail hrest htail hbound => ?_⟩
    obtain ⟨passed, hpassed, hpassedRest, hpassedCount⟩ := parseString_text _ _ value hrest
    have hstart := hrest
    rw [hchars, List.cons_append] at hstart
    rw [parseExpression, skipWhitespace_eq hstart (by decide)]
    simp only [hstart, if_neg (by decide : ¬ '"' = '['), if_true, hpassed, bind, Except.bind]
    exact reads_node 0 _ hpassedRest hpassedCount hbound
  | number value =>
    obtain ⟨c, cs, htext, hc⟩ := readNumber_head (SourceRuntime.numberToString_reads value h)
    obtain ⟨hstarts, hbracket, hquote, hdigit⟩ := number_startsExpression hc
    have hchars : (formatLiteral (.number value)).chars = (SourceRuntime.numberToString value).toList :=
      JsString.chars_ofString_basic (readNumber_basic (SourceRuntime.numberToString_reads value h))
    rw [hchars]
    refine ⟨⟨c, cs, htext, hstarts⟩, fun parser tail hrest htail hbound => ?_⟩
    have hstart := hrest
    rw [htext, List.cons_append] at hstart
    rw [parseExpression, skipWhitespace_eq hstart hstarts.visible]
    simp only [hstart, if_neg hbracket, if_neg hquote, hdigit, if_true]
    exact parseNumber_text h htail hrest hbound
  | boolean value =>
    have hchars : (formatLiteral (.boolean value : SourceValue ν)).chars = (if value then "TRUE" else "FALSE").toList :=
      JsString.chars_ofString_basic (JsString.forall_basic (by cases value <;> decide))
    rw [hchars]
    cases value with
    | true =>
      refine ⟨⟨'T', _, rfl, ⟨by decide, by decide, by decide⟩⟩, fun parser tail hrest htail hbound => ?_⟩
      rw [parseExpression_word (c := 'T') hrest (by decide)]
      exact parseIdentifier_boolean true htail hrest hbound
    | false =>
      refine ⟨⟨'F', _, rfl, ⟨by decide, by decide, by decide⟩⟩, fun parser tail hrest htail hbound => ?_⟩
      rw [parseExpression_word (c := 'F') hrest (by decide)]
      exact parseIdentifier_boolean false htail hrest hbound
  | timestamp value =>
    obtain ⟨date, rfl⟩ := h
    have hchars : (formatLiteral (.timestamp (.ofString (SourceRuntime.toISOString ν date)) : SourceValue ν)).chars =
        "TIMESTAMP(".toList ++
          (stringifyTree (.string (.ofString (SourceRuntime.toISOString ν date)) : JsonTree JsString ν)).chars ++ [')'] := by
      rw [formatLiteral, JsString.chars_append, JsString.chars_append, JsString.chars_ofString_basic (JsString.forall_basic (by decide)),
        JsString.chars_ofString_basic (JsString.forall_basic (by decide))]
      rfl
    rw [hchars]
    refine ⟨⟨'T', _, rfl, ⟨by decide, by decide, by decide⟩⟩, fun parser tail hrest htail hbound => ?_⟩
    rw [parseExpression_word (c := 'T') hrest (by decide)]
    rw [List.append_assoc, List.append_assoc, List.singleton_append] at hrest
    exact parseIdentifier_timestamp date hrest hbound
  | json value =>
    have hchars : (formatLiteral (.json value)).chars =
        "JSON(".toList ++ (stringifyTree (.string (stringifyTree value) : JsonTree JsString ν)).chars ++ [')'] := by
      rw [formatLiteral, JsString.chars_append, JsString.chars_append, JsString.chars_ofString_basic (JsString.forall_basic (by decide)),
        JsString.chars_ofString_basic (JsString.forall_basic (by decide))]
      rfl
    rw [hchars]
    refine ⟨⟨'J', _, rfl, ⟨by decide, by decide, by decide⟩⟩, fun parser tail hrest htail hbound => ?_⟩
    rw [parseExpression_word (c := 'J') hrest (by decide)]
    rw [List.append_assoc, List.append_assoc, List.singleton_append] at hrest
    exact parseIdentifier_json h hrest hbound

structure ReadName (fn : FormulaFunction) : Prop where
  basic : ∀ c ∈ fn.upperName.toList, c.toNat ≤ 0xFFFF
  word : ∀ c ∈ fn.upperName.toList, isIdentifierPart c = true
  own : fn.upperName.toList.map Char.toUpper ∉
    ["TRUE".toList, "FALSE".toList, "EMPTY".toList, "NULL".toList, "TIMESTAMP".toList, "JSON".toList]
  found : parseFunction (fn.upperName.toList.map Char.toUpper) = some fn

theorem readName (fn : FormulaFunction) : ReadName fn := by
  cases fn <;>
    exact ⟨JsString.forall_basic (by decide), List.all_eq_true.mp (by decide), by decide, by decide⟩

theorem upperName_head (fn : FormulaFunction) : ∃ c cs, fn.upperName.toList = c :: cs ∧ StartsExpression c ∧
    (isJsWhitespace c = false ∧ c ≠ '[' ∧ c ≠ '"' ∧ (c = '-' || isDigitUnit c) = false ∧ isIdentifierStart c = true) := by
  cases fn <;> exact ⟨_, _, rfl, ⟨by decide, by decide, by decide⟩, by decide⟩

theorem readsBack_call {levels : Nat} (fn : FormulaFunction) {args : List (SourceExpression ν)}
    (hargs : ∀ argument ∈ args, ReadsBack columns levels argument) : ReadsBack columns (levels + 1) (.call fn args) := by
  obtain ⟨hbasic, hword, hown, hfound⟩ := readName fn
  obtain ⟨c, cs, hhead, hstarts, hc⟩ := upperName_head fn
  have hformat : ∀ text, formatFormulaExpression (columnNames columns) (.call fn args) = .ok text →
      ∃ texts, formatArguments (columnNames columns) args = .ok texts ∧
        text.chars = fn.upperName.toList ++ '(' :: ((joinArguments texts).chars ++ [')']) := by
    intro text h
    rw [formatFormulaExpression] at h
    obtain ⟨texts, htexts, h⟩ := except_bind_eq_ok.mp h
    cases h
    refine ⟨texts, htexts, ?_⟩
    rw [JsString.chars_append, JsString.chars_append, JsString.chars_append, JsString.chars_ofString_basic hbasic,
      JsString.chars_ofString_basic (JsString.forall_basic (by decide)), JsString.chars_ofString_basic (JsString.forall_basic (by decide)), List.append_assoc, List.append_assoc]
    rfl
  constructor
  · intro text h
    obtain ⟨texts, _, hchars⟩ := hformat text h
    exact ⟨c, _, by rw [hchars, hhead]; rfl, hstarts⟩
  · intro text h parser tail hrest htail hbound
    obtain ⟨texts, htexts, hchars⟩ := hformat text h
    rw [hchars, List.append_assoc, List.cons_append, List.append_assoc, List.singleton_append] at hrest
    have hstart := hrest
    rw [hhead, List.cons_append] at hstart
    obtain ⟨htake, hdrop⟩ := takeWord _ hword hrest (by rintro _ ⟨⟩; decide)
    rw [SourceExpression.nodes] at hbound
    obtain ⟨closed, hclosed, hclosedRest, hclosedCount⟩ := parseArguments_texts parser tail hargs htexts
      (moveTo_nodeCount parser _) (moveTo_rest parser _) (by omega)
    simp only [List.mem_cons, List.not_mem_nil, or_false, not_or] at hown
    obtain ⟨htrue, hfalse, hempty, hnull, htimestamp, hjson⟩ := hown
    rw [parseExpression_word hstart hc, parseIdentifierExpression, htake, hdrop]
    simp only [if_neg htrue, if_neg hfalse, if_neg hempty, if_neg hnull, if_neg htimestamp, if_neg hjson, hfound, hclosed,
      bind, Except.bind]
    exact reads_node _ _ hclosedRest hclosedCount hbound

theorem Made.readsBack (hnames : (columns.map FormulaSourceColumn.name).Nodup) {levels : Nat} {expression : SourceExpression ν}
    (h : expression.Made columns levels) : ReadsBack columns levels expression := by
  induction h with
  | column => exact readsBack_column hnames _ _
  | literal hvalue => exact readsBack_literal _ hvalue
  | call _ ih => exact readsBack_call _ ih

end Reading

end FormulaParser

section RoundTrip

variable {ν : Type} [SourceRuntime ν]

theorem parseFormulaSource_made {source : JsString} {columns : List FormulaSourceColumn} {expression : SourceExpression ν}
    (h : parseFormulaSource source columns = .ok expression) :
    expression.Made columns MAXIMUM_FORMULA_DEPTH ∧ expression.nodes ≤ MAXIMUM_FORMULA_NODES := by
  rw [parseFormulaSource] at h
  split at h
  · cases h
  · rw [FormulaParser.parse] at h
    simp only at h
    split at h
    · cases h
    · obtain ⟨⟨parsed, passed⟩, hparsed, h⟩ := except_bind_eq_ok.mp h
      obtain ⟨hmade, hcount, hbound⟩ := FormulaParser.parseExpression_made _ _ _ _ hparsed
      simp only at h
      split at h
      · cases h
        exact ⟨hmade, by omega⟩
      · cases h

theorem parseFormulaSource_printed {columns : List FormulaSourceColumn} {expression : SourceExpression ν} {text : JsString}
    (hnames : (columns.map FormulaSourceColumn.name).Nodup) (hmade : expression.Made columns MAXIMUM_FORMULA_DEPTH)
    (hnodes : expression.nodes ≤ MAXIMUM_FORMULA_NODES)
    (htext : formatFormulaExpression (columnNames columns) expression = .ok text)
    (hlength : text.units.length ≤ MAXIMUM_FORMULA_SOURCE_CHARACTERS) :
    parseFormulaSource text columns = .ok expression.withUnsignedZeros := by
  have hback := FormulaParser.Made.readsBack hnames hmade
  obtain ⟨c, cs, hchars, hstarts⟩ := hback.head text htext
  obtain ⟨next, hnext, hrest, _⟩ := hback.reads text htext (.ofSource text) [] (List.append_nil _).symm (fun _ h => absurd h (by simp))
    (by rw [FormulaParser.ofSource, Nat.zero_add]; exact hnodes)
  have hfirst : (FormulaParser.ofSource text).rest = c :: cs := hchars
  have hequals : (FormulaParser.ofSource text).skipEquals = .ofSource text := by
    rw [FormulaParser.skipEquals, hfirst]
    split
    · rename_i heq
      exact absurd (List.cons.inj heq).1 hstarts.notEqual
    · rfl
  have hend : next.skipWhitespace.rest = [] := by
    rw [FormulaParser.skipWhitespace_rest, hrest]
    rfl
  rw [parseFormulaSource, if_neg (by omega), FormulaParser.parse, FormulaParser.skipWhitespace_eq hfirst hstarts.visible]
  simp only [hequals, hfirst, List.cons_ne_nil, if_false, hnext, bind, Except.bind, hend]
  rfl

/-- What the parser makes of a source over columns with different names, it makes again of the
text the printer writes of it, with zeros for its negative zeros. -/
theorem formula_texts_parsed_back (source : JsString) (columns : List FormulaSourceColumn) (expression : SourceExpression ν)
    (text : JsString) (hnames : (columns.map FormulaSourceColumn.name).Nodup)
    (hsource : parseFormulaSource source columns = .ok expression)
    (htext : formatFormulaExpression (columnNames columns) expression = .ok text)
    (hlength : text.units.length ≤ MAXIMUM_FORMULA_SOURCE_CHARACTERS) :
    parseFormulaSource text columns = .ok expression.withUnsignedZeros := by
  obtain ⟨hmade, hnodes⟩ := parseFormulaSource_made hsource
  exact parseFormulaSource_printed hnames hmade hnodes htext hlength

end RoundTrip

section Sample

local instance integerSources : SourceRuntime SafeInteger where
  zero := some 0
  isFinite := JsRuntime.isFinite
  isZero := JsRuntime.isZero
  numberToString := JsRuntime.numberToString
  parseNumber := SafeInteger.parse
  parseDate source :=
    if source.text.toList.getLast? = some 'Z' then some (TimeValue.read (String.ofList source.text.toList.dropLast)) else none
  toISOString date := String.ofList (date.write.toList ++ ['Z'])
  normalizeNFKC name := name
  toLocaleLowerCase name := .ofChars (name.chars.map Char.toLower)
  isFinite_zero := rfl
  numberToString_reads n h := by
    obtain ⟨n, rfl⟩ := Option.isSome_iff_exists.mp h
    have hend : Delimited [] := fun _ h => nomatch h
    have hread := readNumber_int n hend
    rwa [List.append_nil] at hread
  parseNumber_numberToString n h := by
    obtain ⟨n, rfl⟩ := Option.isSome_iff_exists.mp h
    by_cases hn : n = 0
    · subst hn
      rfl
    · rw [if_neg (by simp [JsRuntime.isZero, hn])]
      exact parse_toString n
  parseDate_toISOString date := by
    rw [JsString.text_ofString, String.toList_ofList, List.getLast?_append, List.dropLast_append_of_ne_nil (by simp)]
    simp [TimeValue.read_write]
  toISOString_utc date := ⟨date.write.toList, String.toList_ofList⟩

def printedColumns : List FormulaSourceColumn :=
  [{ id := "c1", name := .ofString "a]b" }, { id := "c2", name := .ofString "c" }]

def printedSource : JsString :=
  .ofString "= concat([a]]b], \"\\\"\", 7, JSON(\"[1]\"))"

def printedText : JsString :=
  .ofString "CONCAT([a]]b], \"\\\"\", 7, JSON(\"[1]\"))"

def reprinted (source : JsString) : Option JsString :=
  match (parseFormulaSource source printedColumns : Except FormulaSourceError (SourceExpression SafeInteger)) with
  | .ok expression =>
    match formatFormulaExpression (columnNames printedColumns) expression with
    | .ok text => some text
    | .error _ => none
  | .error _ => none

theorem formula_texts_parsed_back_concat : ∃ expression : SourceExpression SafeInteger,
    parseFormulaSource printedSource printedColumns = .ok expression ∧
    formatFormulaExpression (columnNames printedColumns) expression = .ok printedText ∧
    parseFormulaSource printedText printedColumns = .ok expression.withUnsignedZeros := by
  have hreprinted : reprinted printedSource = some printedText := by decide +kernel
  rw [reprinted] at hreprinted
  split at hreprinted
  · rename_i expression hsource
    split at hreprinted
    · rename_i text htext
      cases hreprinted
      exact ⟨expression, hsource, htext, formula_texts_parsed_back printedSource printedColumns expression printedText
        (by decide) hsource htext (by decide +kernel)⟩
    · cases hreprinted
  · cases hreprinted

end Sample

end ByokGrid
