import Reckoner.Proofs.Json.Grammar

/-!
# Texts of the grammar are read

A text of a value takes the reader from where a value is due to where it has been delivered,
whatever is open around it (`Reader.isRead_of_spells`), by induction over the grammar. Items and
fields take it to the comma or the end behind them. So every document is read as its value
(`read?_of_isDocument`).
-/

namespace Reckoner.Json

/-- Where white space changes nothing. -/
def Phase.IsIdle : Phase → Prop
  | .value _ | .key _ | .colon | .separator | .done _ => True
  | _ => False

namespace Reader

theorem run_cons (reader : Reader) (c : Char) (rest : Text) :
    reader.run (c :: rest) = (reader.step c).bind (fun reached => reached.run rest) := by
  rw [run, List.foldlM_cons]
  rfl

/-! ## Strings -/

theorem hexDigit?_of_isHexDigit {c : Char} {digit : Nat} (hex : IsHexDigit c digit) :
    hexDigit? c = some digit := by
  have lower : ∀ digit < 16, hexDigit? (Nat.digitChar digit) = some digit := by decide
  have upper : ∀ digit < 16, hexDigit? (Nat.digitChar digit).toUpper = some digit := by decide
  obtain ⟨small, rfl | rfl⟩ := hex
  · exact lower digit small
  · exact upper digit small

section Strings

variable {isKey : Bool} {pieces : Quotation} {stack : List Frame} {rest : Text}

/-- One more digit of a code, of which others follow. -/
theorem step_code {more code digit : Nat} {c : Char} (hex : IsHexDigit c digit)
    (others : 1 < more) :
    step ⟨.code isKey pieces more code, stack⟩ c =
      some ⟨.code isKey pieces (more - 1) (code * 16 + digit), stack⟩ := by
  show (hexDigit? c).map _ = _
  rw [hexDigit?_of_isHexDigit hex, Option.map_some, if_neg (Nat.not_le.mpr others)]

/-- The last digit of a code. -/
theorem step_last_code {code digit : Nat} {c : Char} (hex : IsHexDigit c digit) :
    step ⟨.code isKey pieces 1 code, stack⟩ c =
      some ⟨.string isKey (Piece.ofCode (code * 16 + digit) :: pieces), stack⟩ := by
  show (hexDigit? c).map _ = _
  rw [hexDigit?_of_isHexDigit hex]
  rfl

/-- A part of a string is read from each of its texts. -/
theorem run_piece {text : Text} {piece : Piece} (spells : piece.Spells text) :
    run ⟨.string isKey pieces, stack⟩ (text ++ rest) =
      run ⟨.string isKey (piece :: pieces), stack⟩ rest := by
  cases spells with
  | @plain c visible quote slash =>
      have taken : step ⟨.string isKey pieces, stack⟩ c =
          some ⟨.string isKey (.plain c :: pieces), stack⟩ := by
        show (if c = '"' then _ else if c = '\\' then _ else if c.toNat < 0x20 then _ else _) = _
        rw [if_neg quote, if_neg slash, if_neg (Nat.not_lt.mpr visible)]
      show run _ (c :: rest) = _
      rw [run_cons, taken, Option.bind_some]
  | escape entry =>
      simp only [escapes, List.mem_cons, List.not_mem_nil, or_false, Prod.mk.injEq] at entry
      rcases entry with ⟨rfl, rfl⟩ | ⟨rfl, rfl⟩ | ⟨rfl, rfl⟩ | ⟨rfl, rfl⟩ | ⟨rfl, rfl⟩ |
        ⟨rfl, rfl⟩ | ⟨rfl, rfl⟩ | ⟨rfl, rfl⟩
      all_goals rfl
  | @code a b c d w x y z first second third fourth =>
      show run _ ('\\' :: 'u' :: a :: b :: c :: d :: rest) = _
      rw [run_cons]
      show run ⟨.escape isKey pieces, stack⟩ ('u' :: a :: b :: c :: d :: rest) = _
      rw [run_cons]
      show run ⟨.code isKey pieces 4 0, stack⟩ (a :: b :: c :: d :: rest) = _
      rw [run_cons, step_code first (by decide), Option.bind_some, Nat.zero_mul, Nat.zero_add,
        run_cons, step_code second (by decide), Option.bind_some, run_cons,
        step_code third (by decide), Option.bind_some, run_cons, step_last_code fourth,
        Option.bind_some]

/-- The rest of a string is read up to its quote. -/
theorem run_inside {text : Text} {content : Quotation}
    (spells : Quotation.SpellsInside text content) :
    run ⟨.string isKey pieces, stack⟩ (text ++ '"' :: rest) =
      (endString isKey (pieces.reverse ++ content) stack).bind (·.run rest) := by
  induction spells generalizing pieces with
  | nil =>
      rw [List.nil_append, List.append_nil, run_cons]
      rfl
  | cons first _ ih =>
      rw [List.append_assoc, run_piece first, ih, List.reverse_cons, List.append_assoc]
      rfl

/-- A whole string, where a value is due. -/
theorem run_string {mayClose : Bool} {text : Text} {content : Quotation}
    (spells : Quotation.Spells text content) :
    run ⟨.value mayClose, stack⟩ (text ++ rest) =
      (deliver (.string content) stack).bind (·.run rest) := by
  obtain @⟨text, _, inside⟩ := spells
  rw [List.cons_append, List.append_assoc, run_cons]
  exact run_inside inside

/-- A whole string, where a key is due. -/
theorem run_key {mayClose : Bool} {fields : List (Quotation × Value)} {text : Text}
    {content : Quotation} (spells : Quotation.Spells text content) :
    run ⟨.key mayClose, .object fields :: stack⟩ (text ++ rest) =
      run ⟨.colon, .field fields content :: stack⟩ rest := by
  obtain @⟨text, _, inside⟩ := spells
  rw [List.cons_append, List.append_assoc, run_cons]
  show run ⟨.string true [], .object fields :: stack⟩ (text ++ '"' :: rest) = _
  rw [run_inside inside]
  rfl

end Strings

/-! ## Words and numbers -/

section Plain

variable {stack : List Frame} {rest : Text}

/-- The rest of a word. -/
theorem run_word {word : Text} (proper : word ≠ []) (value : Value) :
    run ⟨.word word value, stack⟩ (word ++ rest) = (deliver value stack).bind (·.run rest) := by
  induction word with
  | nil => exact absurd rfl proper
  | cons c others ih =>
      show run _ (c :: (others ++ rest)) = _
      rw [run_cons]
      cases others with
      | nil =>
          show ((if c = c then deliver value stack else none).bind _) = _
          rw [if_pos rfl]
          rfl
      | cons d others =>
          show ((if c = c then some _ else none).bind _) = _
          rw [if_pos rfl]
          exact ih (List.cons_ne_nil d others)

/-- The rest of a number. -/
theorem run_number {characters : Text} (numeric : ∀ c ∈ characters, isNumeric c = true)
    (before : Text) :
    run ⟨.number before, stack⟩ (characters ++ rest) =
      run ⟨.number (characters.reverse ++ before), stack⟩ rest := by
  induction characters generalizing before with
  | nil => rfl
  | cons c others ih =>
      have first : step ⟨.number before, stack⟩ c = some ⟨.number (c :: before), stack⟩ :=
        if_pos (numeric c List.mem_cons_self)
      show run _ (c :: (others ++ rest)) = _
      rw [run_cons, first, Option.bind_some,
        ih (fun d member => numeric d (List.mem_cons_of_mem _ member)), List.reverse_cons,
        List.append_assoc]
      rfl

/-- A minus sign or a digit opens a number. -/
theorem openValue_number {mayClose : Bool} {c : Char}
    (starts : (c = '-' || Text.isDigit c) = true) :
    openValue mayClose c stack = some ⟨.number [c], stack⟩ := by
  have other (d : Char) (differs : (d = '-' || Text.isDigit d) = false) : c ≠ d := by
    rintro rfl
    rw [differs] at starts
    cases starts
  have space : isSpace c = false := by
    simp [isSpace, other ' ' (by decide), other '\n' (by decide), other '\t' (by decide),
      other '\r' (by decide)]
  rw [openValue, space, if_neg Bool.false_ne_true, if_neg (other '[' (by decide)),
    if_neg (other '\x7b' (by decide)), if_neg (other '"' (by decide)),
    if_neg (other 'n' (by decide)), if_neg (other 't' (by decide)),
    if_neg (other 'f' (by decide)), if_pos starts]

section Numerals

variable {text : Text} {numeral : Numeral} (spells : numeral.Spells text)

include spells

/-- A whole number, of which the end is not known yet. -/
theorem run_numeral {mayClose : Bool} :
    run ⟨.value mayClose, stack⟩ (text ++ rest) = run ⟨.number text.reverse, stack⟩ rest := by
  have numeric := spells.isNumeric
  obtain ⟨c, others, rfl, starts⟩ := spells.exists_eq_cons
  show run _ (c :: (others ++ rest)) = _
  have opened : step ⟨.value mayClose, stack⟩ c = some ⟨.number [c], stack⟩ :=
    openValue_number starts
  rw [run_cons, opened, Option.bind_some,
    run_number fun d member => numeric d (List.mem_cons_of_mem _ member), List.reverse_cons]

theorem endNumber_of_spells : endNumber text.reverse stack = deliver (.number numeral) stack := by
  rw [endNumber, List.reverse_reverse, Numeral.read?_of_spells spells]
  rfl

end Numerals

/-- A value that has just been delivered takes the next character as one that follows it. -/
theorem next_of_deliver {value : Value} {reader : Reader} (c : Char)
    (delivered : deliver value stack = some reader) : next c reader = reader.step c := by
  cases stack with
  | nil =>
      cases delivered
      rfl
  | cons frame below =>
      cases frame with
      | array items =>
          cases delivered
          rfl
      | object fields => cases delivered
      | field fields key =>
          cases delivered
          rfl

/-- A number ends where something else begins. -/
theorem run_number_end {text : Text} {numeral : Numeral} (spells : numeral.Spells text) {c : Char}
    (other : isNumeric c = false) :
    run ⟨.number text.reverse, stack⟩ (c :: rest) =
      (deliver (.number numeral) stack).bind (·.run (c :: rest)) := by
  -- The character that ends the number is also the first one behind it.
  have ended : step ⟨.number text.reverse, stack⟩ c =
      (deliver (.number numeral) stack).bind (next c) := by
    rw [← endNumber_of_spells spells]
    exact if_neg (by rw [other]; exact Bool.false_ne_true)
  rw [run_cons, ended]
  cases delivered : deliver (.number numeral) stack with
  | none => rfl
  | some reader =>
      rw [Option.bind_some, next_of_deliver c delivered, Option.bind_some, run_cons]

end Plain

/-! ## Blanks -/

theorem step_space {phase : Phase} (idle : phase.IsIdle) (stack : List Frame) {c : Char}
    (space : isSpace c = true) : step ⟨phase, stack⟩ c = some ⟨phase, stack⟩ := by
  cases phase with
  | value mayClose => exact if_pos space
  | key mayClose => exact if_pos space
  | colon => exact if_pos space
  | separator => exact if_pos space
  | done document => exact if_pos space
  | _ => exact idle.elim

/-- Blanks change nothing where they may stand. -/
theorem run_gap (phase : Phase) (idle : phase.IsIdle) {gap : Text} (blank : IsGap gap)
    (stack : List Frame) (rest : Text) :
    run ⟨phase, stack⟩ (gap ++ rest) = run ⟨phase, stack⟩ rest := by
  induction gap with
  | nil => rfl
  | cons c others ih =>
      rw [List.cons_append, run_cons, step_space idle stack (blank c List.mem_cons_self),
        Option.bind_some, ih fun d member => blank d (List.mem_cons_of_mem _ member)]

theorem isNumeric_of_isSpace {c : Char} (space : isSpace c = true) : isNumeric c = false := by
  simp only [isSpace, Bool.or_eq_true, decide_eq_true_eq] at space
  rcases space with ((rfl | rfl) | rfl) | rfl
  all_goals rfl

/-! ## Values -/

/-- What may stand behind a value: behind a number, something that does not go on with it. -/
def Follows : Value → Text → Prop
  | .number _, rest => ∃ c later, rest = c :: later ∧ isNumeric c = false
  | _, _ => True

theorem follows_cons (value : Value) {c : Char} (other : isNumeric c = false) (rest : Text) :
    Follows value (c :: rest) := by
  cases value with
  | number numeral => exact ⟨c, rest, rfl, other⟩
  | _ => trivial

theorem follows_gap (value : Value) {gap : Text} (blank : IsGap gap) {c : Char}
    (other : isNumeric c = false) (rest : Text) : Follows value (gap ++ c :: rest) := by
  cases gap with
  | nil => exact follows_cons value other rest
  | cons d others => exact follows_cons value (isNumeric_of_isSpace (blank d List.mem_cons_self)) _

/-- What reading the text of a part comes to. A value is delivered wherever one is due; items and
fields are collected, last one first, up to the comma or the end behind them. -/
def IsRead (text : Text) : Part → Prop
  | .value value => ∀ (mayClose : Bool) (stack : List Frame) (rest : Text), Follows value rest →
      run ⟨.value mayClose, stack⟩ (text ++ rest) = (deliver value stack).bind (·.run rest)
  | .items items => ∀ (mayClose : Bool) (before : List Value) (stack : List Frame) (c : Char)
      (rest : Text), isNumeric c = false →
      run ⟨.value mayClose, .array before :: stack⟩ (text ++ c :: rest) =
        run ⟨.separator, .array (items.reverse ++ before) :: stack⟩ (c :: rest)
  | .fields fields => ∀ (mayClose : Bool) (before : List (Quotation × Value)) (stack : List Frame)
      (c : Char) (rest : Text), isNumeric c = false →
      run ⟨.key mayClose, .object before :: stack⟩ (text ++ c :: rest) =
        run ⟨.separator, .object (fields.reverse ++ before) :: stack⟩ (c :: rest)

theorem isRead_null : IsRead Value.nullWord (.value .null) := by
  intro mayClose stack rest _
  show run ⟨.value mayClose, stack⟩ ('n' :: ("ull".toList ++ rest)) = _
  rw [run_cons]
  exact run_word (by decide) .null

theorem isRead_bool (value : Bool) : IsRead (Value.boolWord value) (.value (.bool value)) := by
  intro mayClose stack rest _
  cases value with
  | false =>
      show run ⟨.value mayClose, stack⟩ ('f' :: ("alse".toList ++ rest)) = _
      rw [run_cons]
      exact run_word (by decide) (.bool false)
  | true =>
      show run ⟨.value mayClose, stack⟩ ('t' :: ("rue".toList ++ rest)) = _
      rw [run_cons]
      exact run_word (by decide) (.bool true)

theorem isRead_number {text : Text} {numeral : Numeral} (spells : numeral.Spells text) :
    IsRead text (.value (.number numeral)) := by
  rintro mayClose stack rest ⟨c, later, rfl, other⟩
  rw [run_numeral spells, run_number_end spells other]

/-- An empty array or object is closed behind its gap. -/
theorem isRead_emptyArray {gap : Text} (blank : IsGap gap) :
    IsRead ('[' :: (gap ++ [']'])) (.value (.array [])) := by
  intro mayClose stack rest _
  rw [List.cons_append, List.append_assoc, run_cons]
  show run ⟨.value true, .array [] :: stack⟩ (gap ++ ']' :: rest) = _
  rw [run_gap (.value true) trivial blank, run_cons]
  rfl

theorem isRead_emptyObject {gap : Text} (blank : IsGap gap) :
    IsRead ('\x7b' :: (gap ++ ['\x7d'])) (.value (.object [])) := by
  intro mayClose stack rest _
  rw [List.cons_append, List.append_assoc, run_cons]
  show run ⟨.key true, .object [] :: stack⟩ (gap ++ '\x7d' :: rest) = _
  rw [run_gap (.key true) trivial blank, run_cons]
  rfl

section Containers

variable {text : Text}

theorem isRead_array {items : List Value} (inside : IsRead text (.items items)) :
    IsRead ('[' :: (text ++ [']'])) (.value (.array items)) := by
  intro mayClose stack rest _
  have closed : step ⟨.separator, .array items.reverse :: stack⟩ ']' =
      deliver (.array items) stack := by
    show deliver (.array items.reverse.reverse) stack = _
    rw [List.reverse_reverse]
  rw [List.cons_append, List.append_assoc, run_cons]
  show run ⟨.value true, .array [] :: stack⟩ (text ++ ']' :: rest) = _
  rw [inside true [] stack ']' rest rfl, List.append_nil, run_cons, closed]

theorem isRead_object {fields : List (Quotation × Value)} (inside : IsRead text (.fields fields)) :
    IsRead ('\x7b' :: (text ++ ['\x7d'])) (.value (.object fields)) := by
  intro mayClose stack rest _
  have closed : step ⟨.separator, .object fields.reverse :: stack⟩ '\x7d' =
      deliver (.object fields) stack := by
    show deliver (.object fields.reverse.reverse) stack = _
    rw [List.reverse_reverse]
  rw [List.cons_append, List.append_assoc, run_cons]
  show run ⟨.key true, .object [] :: stack⟩ (text ++ '\x7d' :: rest) = _
  rw [inside true [] stack '\x7d' rest rfl, List.append_nil, run_cons, closed]

theorem isRead_item {before after : Text} {value : Value} (start : IsGap before)
    (read : IsRead text (.value value)) (final : IsGap after) :
    IsRead (before ++ (text ++ after)) (.items [value]) := by
  intro mayClose collected stack c rest other
  rw [List.append_assoc, List.append_assoc, run_gap (.value mayClose) trivial start,
    read _ _ _ (follows_gap value final other rest)]
  show run ⟨.separator, .array (value :: collected) :: stack⟩ (after ++ c :: rest) = _
  rw [run_gap .separator trivial final]
  rfl

theorem isRead_field {before name between colon after : Text} {key : Quotation} {value : Value}
    (start : IsGap before) (named : Quotation.Spells name key) (middle : IsGap between)
    (next : IsGap colon) (read : IsRead text (.value value)) (final : IsGap after) :
    IsRead (before ++ (name ++ (between ++ ':' :: (colon ++ (text ++ after)))))
      (.fields [(key, value)]) := by
  intro mayClose collected stack c rest other
  simp only [List.append_assoc, List.cons_append]
  rw [run_gap (.key mayClose) trivial start, run_key named, run_gap .colon trivial middle, run_cons]
  show run ⟨.value false, .field collected key :: stack⟩ _ = _
  rw [run_gap (.value false) trivial next, read _ _ _ (follows_gap value final other rest)]
  show run ⟨.separator, .object ((key, value) :: collected) :: stack⟩ (after ++ c :: rest) = _
  rw [run_gap .separator trivial final]
  rfl

variable {others : Text}

theorem isRead_items {value : Value} {rest : List Value} (first : IsRead text (.items [value]))
    (behind : IsRead others (.items rest)) :
    IsRead (text ++ ',' :: others) (.items (value :: rest)) := by
  intro mayClose collected stack c later other
  rw [List.append_assoc, List.cons_append, first _ _ _ ',' _ rfl, run_cons]
  show run ⟨.value false, .array (value :: collected) :: stack⟩ (others ++ c :: later) = _
  rw [behind _ _ _ c later other, List.reverse_cons, List.append_assoc]
  rfl

theorem isRead_fields {field : Quotation × Value} {rest : List (Quotation × Value)}
    (first : IsRead text (.fields [field])) (behind : IsRead others (.fields rest)) :
    IsRead (text ++ ',' :: others) (.fields (field :: rest)) := by
  intro mayClose collected stack c later other
  rw [List.append_assoc, List.cons_append, first _ _ _ ',' _ rfl, run_cons]
  show run ⟨.key false, .object (field :: collected) :: stack⟩ (others ++ c :: later) = _
  rw [behind _ _ _ c later other, List.reverse_cons, List.append_assoc]
  rfl

end Containers

/-- **A part is read from each of its texts**, whatever is open around it. -/
theorem isRead_of_spells {text : Text} {part : Part} (spells : Spells text part) :
    IsRead text part := by
  induction spells with
  | null => exact isRead_null
  | bool value => exact isRead_bool value
  | number spells => exact isRead_number spells
  | string spells => exact fun _ _ _ _ => run_string spells
  | emptyArray blank => exact isRead_emptyArray blank
  | array _ ih => exact isRead_array ih
  | emptyObject blank => exact isRead_emptyObject blank
  | object _ ih => exact isRead_object ih
  | item start _ final ih => exact isRead_item start ih final
  | items _ _ first behind => exact isRead_items first behind
  | field start named middle next _ final ih =>
      exact isRead_field start named middle next ih final
  | fields _ _ first behind => exact isRead_fields first behind

end Reader

/-! ## Documents -/

/-- Behind the last value only its end or white space comes. -/
theorem Reader.finish_of_spells {text after : Text} {value : Value}
    (spells : Spells text (.value value)) (final : IsGap after) :
    (Reader.run ⟨.value false, []⟩ (text ++ after)).bind Reader.finish = some value := by
  have delivered : (deliver value []).bind (fun reader => (reader.run after).bind finish) =
      some value := by
    show (run ⟨.done value, []⟩ after).bind finish = _
    rw [← List.append_nil after, run_gap (.done value) trivial final]
    rfl
  by_cases follows : Follows value after
  · rw [isRead_of_spells spells false [] after follows, Option.bind_assoc]
    exact delivered
  · -- Nothing follows a number that the end of the document has to end.
    cases spells with
    | @number _ numeral spells =>
        cases after with
        | nil =>
            have ended : endNumber text.reverse [] = some ⟨.done (.number numeral), []⟩ :=
              endNumber_of_spells spells
            rw [run_numeral spells]
            show Reader.finish ⟨.number text.reverse, []⟩ = _
            rw [Reader.finish]
            dsimp only
            rw [ended]
        | cons c rest =>
            have space := isNumeric_of_isSpace (final c List.mem_cons_self)
            exact absurd ⟨c, rest, rfl, space⟩ follows
    | _ => exact absurd trivial follows

/-- **A document is read as the value that it holds.** -/
theorem read?_of_isDocument {text : Text} {value : Value} (document : IsDocument text value) :
    read? text = some value := by
  obtain @⟨before, text, after, value, start, spells, final⟩ := document
  show (Reader.run ⟨.value false, []⟩ _).bind Reader.finish = _
  rw [Reader.run_gap (.value false) trivial start, Reader.finish_of_spells spells final]

end Reckoner.Json
