import Mathlib
import PagedQuery.Proofs.Json.Building
import PagedQuery.Proofs.Json.Numerals

/-!
# How documents are written

A text spells tokens if it consists of them, each as it is written, with white space between them
where one likes (`Spells`). A word or a number is as long as it can be, so no character of one may
follow it. What the lexer has open is what it has taken from the text without a token for it yet
(`Lexeme.taken`), and of a string it knows whether an escape is still incomplete
(`Lexeme.Proper`).

* `Token.IsWritten`, `Spells`: the texts of tokens, one and several;
* `lex?_eq_some_iff`: a text is cut into the tokens that it spells;
* `Document.parse?_eq_some_iff`: the texts of a document are those that spell its tokens.
-/

namespace PagedQuery.Json

open Text

/-! ## Tokens as they are written -/

/-- What may stand between quotes. A quote, a backslash and a control character stand there in an
    escape only. -/
inductive IsBody : List Char → Prop
  | nil : IsBody []
  | plain {c : Char} {cs : List Char} : c ≠ '"' → c ≠ '\\' → 0x20 ≤ c.toNat → IsBody cs →
      IsBody (c :: cs)
  | letter {c : Char} {cs : List Char} : c ∈ ['"', '\\', '/', 'b', 'f', 'n', 'r', 't'] →
      IsBody cs → IsBody ('\\' :: c :: cs)
  | unit {p q r s : Char} {cs : List Char} : (∀ d ∈ [p, q, r, s], isHexDigit d = true) →
      IsBody cs → IsBody ('\\' :: 'u' :: p :: q :: r :: s :: cs)

/-- How a token is written. -/
inductive Token.IsWritten : Token → List Char → Prop
  | openBracket : IsWritten .openBracket ['[']
  | closeBracket : IsWritten .closeBracket [']']
  | openBrace : IsWritten .openBrace ['\x7b']
  | closeBrace : IsWritten .closeBrace ['\x7d']
  | comma : IsWritten .comma [',']
  | colon : IsWritten .colon [':']
  | null : IsWritten .null ['n', 'u', 'l', 'l']
  | true : IsWritten (.bool true) ['t', 'r', 'u', 'e']
  | false : IsWritten (.bool false) ['f', 'a', 'l', 's', 'e']
  | number {literal : Literal} {text : List Char} : literal.IsWritten text →
      IsWritten (.number literal) text
  | string {text : List Char} : IsBody text → IsWritten (.string text) ('"' :: text ++ ['"'])

/-- A character that would make a word or a number longer. -/
def Token.GoesOn : Token → Char → Prop
  | .null, c => c.isLower = true
  | .bool _, c => c.isLower = true
  | .number _, c => IsNumeral c
  | _, _ => False

/-- A text that consists of tokens and white space. -/
inductive Spells : List Token → List Char → Prop
  | nil : Spells [] []
  | gap {tokens : List Token} {c : Char} {cs : List Char} : c ∈ [' ', '\t', '\n', '\r'] →
      Spells tokens cs → Spells tokens (c :: cs)
  | token {token : Token} {tokens : List Token} {text cs : List Char} : token.IsWritten text →
      (∀ c ∈ cs.head?, ¬token.GoesOn c) → Spells tokens cs → Spells (token :: tokens) (text ++ cs)

variable {lexeme next : Lexeme} {token : Token} {tokens : List Token} {c : Char}
  {before body cs text : List Char}

theorem IsBody.append (hbody : IsBody body) (h : IsBody cs) : IsBody (body ++ cs) := by
  induction hbody with
  | nil => exact h
  | plain hquote hbackslash hc _ ih => exact .plain hquote hbackslash hc ih
  | letter hc _ ih => exact .letter hc ih
  | unit hds _ ih => exact .unit hds ih

/-! ## Tokens that are read -/

theorem lexFrom?_cons (h : lexChar? lexeme c = some ([], next)) :
    lexFrom? lexeme (c :: cs) = lexFrom? next cs := by
  rw [lexFrom?, h]
  simp

theorem begin?_of_isDigit (h : c.isDigit = true) : begin? c = some ([], .number [c]) := by
  unfold begin?
  split
  case h_12 => rw [h, Bool.or_true, if_pos rfl]
  all_goals exact absurd h (by decide)

/-- A word or number comes to its end where it does not go on. -/
theorem lexFrom?_of_ended (htoken : lexeme.token? = some token)
    (h : ∀ c ∈ cs.head?, lexChar? lexeme c = lexChar?.ended lexeme c) :
    lexFrom? lexeme cs = (lexFrom? .between cs).map (token :: ·) := by
  cases cs with
  | nil =>
    cases lexeme with
    | between => cases htoken
    | _ => exact congrArg (Option.map ([·])) htoken
  | cons c cs =>
    rw [lexFrom?, lexFrom?, h c rfl, lexChar?.ended, htoken, lexChar?]
    cases begin? c with
    | none => rfl
    | some step =>
      obtain ⟨tokens, next⟩ := step
      show (lexFrom? next cs).bind _ = ((lexFrom? next cs).bind _).map _
      cases lexFrom? next cs <;> rfl

/-- A string goes on behind what may stand in it. -/
theorem IsBody.lexFrom? (h : IsBody body) (before cs : List Char) :
    lexFrom? (.string before .none) (body ++ cs) =
      Json.lexFrom? (.string (body.reverse ++ before) .none) cs := by
  induction h generalizing before with
  | nil => rfl
  | @plain c body hquote hbackslash hc _ ih =>
    have hstep : lexChar? (.string before .none) c = some ([], .string (c :: before) .none) := by
      simp [lexChar?, inString?, hquote, hbackslash, hc]
    rw [List.cons_append, lexFrom?_cons hstep, ih, List.reverse_cons, List.append_assoc]
    rfl
  | @letter c body hc _ ih =>
    have hu : c ≠ 'u' := fun hu => by simp [hu] at hc
    have hstep : lexChar? (.string ('\\' :: before) .backslash) c =
        some ([], .string (c :: '\\' :: before) .none) := by
      simp only [lexChar?, inString?, beq_iff_eq, if_neg hu, List.contains_iff_mem, if_pos hc]
    refine (lexFrom?_cons rfl).trans <| (lexFrom?_cons hstep).trans ?_
    rw [List.append_eq, ih]
    simp
  | @unit p q r s body hds _ ih =>
    have hdigit (before : List Char) (missing : ℕ) {d : Char} (hd : d ∈ [p, q, r, s]) :
        lexChar? (.string before (.hex missing)) d = some ([], .string
          (d :: before) (if missing ≤ 1 then .none else .hex (missing - 1))) :=
      if_pos (hds d hd)
    refine (lexFrom?_cons rfl).trans <| (lexFrom?_cons rfl).trans <|
      (lexFrom?_cons (hdigit _ 4 (by simp))).trans <|
        (lexFrom?_cons (hdigit _ 3 (by simp))).trans <|
          (lexFrom?_cons (hdigit _ 2 (by simp))).trans <|
            (lexFrom?_cons (hdigit _ 1 (by simp))).trans ?_
    show Json.lexFrom? (.string _ .none) (body ++ cs) = _
    rw [ih]
    simp

theorem isNumeral_iff :
    (c.isDigit || ['+', '-', '.', 'e', 'E'].contains c) = true ↔ IsNumeral c := by
  rw [Bool.or_eq_true, List.contains_iff_mem, IsNumeral]

/-- A word or number is read from its first character to its last. -/
theorem lexFrom?_of_begun {begun : List Char → Lexeme}
    (hfirst : lexChar? .between c = some ([], begun [c]))
    (hrest : ∀ d ∈ text, ∀ before, lexChar? (begun before) d = some ([], begun (d :: before)))
    (htoken : (begun (text.reverse ++ [c])).token? = some token)
    (hends : ∀ d ∈ cs.head?, ∀ word, lexChar? (begun word) d = lexChar?.ended (begun word) d) :
    lexFrom? .between (c :: text ++ cs) = (lexFrom? .between cs).map (token :: ·) := by
  have hgoes : ∀ before, lexFrom? (begun before) (text ++ cs) =
      lexFrom? (begun (text.reverse ++ before)) cs := by
    clear htoken
    induction text with
    | nil => exact fun _ => rfl
    | cons d text ih =>
      intro before
      obtain ⟨hd, hrest⟩ := List.forall_mem_cons.1 hrest
      rw [List.cons_append, lexFrom?_cons (hd before), ih hrest, List.reverse_cons,
        List.append_assoc]
      rfl
  rw [List.cons_append, lexFrom?_cons hfirst, hgoes,
    lexFrom?_of_ended htoken fun d hd => hends d hd _]

/-- Tokens are read off every text that spells them. -/
theorem Spells.lex? (h : Spells tokens cs) : lex? cs = some tokens := by
  unfold Json.lex?
  induction h with
  | nil => rfl
  | @gap tokens c cs hc _ ih =>
    have hstep : lexChar? .between c = some ([], .between) := by
      simp only [List.mem_cons, List.not_mem_nil, or_false] at hc
      rcases hc with rfl | rfl | rfl | rfl <;> rfl
    rw [lexFrom?_cons hstep, ih]
  | @token token tokens text cs htext hends _ ih =>
    have hword {first : Char} {rest : List Char} {token : Token}
        (hfirst : lexChar? .between first = some ([], .word [first]))
        (hrest : rest.all Char.isLower = true)
        (htoken : (Lexeme.word (rest.reverse ++ [first])).token? = some token)
        (hends : ∀ c ∈ cs.head?, ¬c.isLower = true) :
        lexFrom? .between (first :: rest ++ cs) = some (token :: tokens) := by
      rw [lexFrom?_of_begun hfirst (fun c hc _ => if_pos (List.all_eq_true.1 hrest c hc)) htoken
        fun c hc _ => if_neg (hends c hc), ih]
      rfl
    cases htext with
    | openBracket | closeBracket | openBrace | closeBrace | comma | colon =>
      show (lexFrom? .between cs).bind _ = _
      rw [ih]
      rfl
    | null | true | false => exact hword rfl rfl rfl hends
    | @number literal _ hnumber =>
      obtain ⟨d, ds, rfl, hd⟩ := hnumber.exists_cons
      have hfirst : lexChar? .between d = some ([], .number [d]) := by
        rcases hd with rfl | hd
        · rfl
        · exact begin?_of_isDigit hd
      have hrest := (List.forall_mem_cons.1 hnumber.isNumeral).2
      have htoken : (Lexeme.number (ds.reverse ++ [d])).token? = some (.number literal) := by
        rw [Lexeme.token?, ← List.reverse_cons, List.reverse_reverse,
          Literal.ofText?_eq_some_iff.2 hnumber, Option.map_some]
      rw [lexFrom?_of_begun hfirst (fun c hc _ => if_pos (isNumeral_iff.2 (hrest c hc))) htoken
        fun c hc _ => if_neg (mt isNumeral_iff.1 (hends c hc)), ih]
      rfl
    | @string body hbody =>
      rw [List.cons_append, List.cons_append, lexFrom?_cons rfl, List.append_assoc, hbody.lexFrom?,
        List.append_nil]
      show (lexFrom? .between cs).bind
        (fun rest => some ([.string body.reverse.reverse] ++ rest)) = _
      rw [ih, List.reverse_reverse]
      rfl

/-! ## Texts that are read -/

/-- The characters that an open lexeme was taken from. -/
def Lexeme.taken : Lexeme → List Char
  | .between => []
  | .word text => text.reverse
  | .number text => text.reverse
  | .string text _ => '"' :: text.reverse

/-- A string that is open may stand between quotes, but for an escape at its end. -/
def Lexeme.Proper : Lexeme → Prop
  | .string text .none => IsBody text.reverse
  | .string text .backslash => ∃ body, text.reverse = body ++ ['\\'] ∧ IsBody body
  | .string text (.hex missing) => ∃ body ds, text.reverse = body ++ '\\' :: 'u' :: ds ∧
      IsBody body ∧ ds.length + missing = 4 ∧ 0 < missing ∧ ∀ d ∈ ds, isHexDigit d = true
  | _ => True

theorem isWritten_of_token? (h : lexeme.token? = some token) : token.IsWritten lexeme.taken := by
  cases lexeme with
  | between | string => cases h
  | word text =>
    rw [Lexeme.token?] at h
    rw [Lexeme.taken]
    split at h
    · next heq =>
      cases h
      exact heq ▸ .null
    · next heq =>
      cases h
      exact heq ▸ .true
    · next heq =>
      cases h
      exact heq ▸ .false
    · cases h
  | number text =>
    obtain ⟨literal, hliteral, rfl⟩ := Option.map_eq_some_iff.1 h
    exact .number (Literal.ofText?_eq_some_iff.1 hliteral)

theorem isLower_of_goesOn (h : (Lexeme.word text).token? = some token) (hc : token.GoesOn c) :
    c.isLower = true := by
  rw [Lexeme.token?] at h
  split at h <;> cases h
  all_goals exact hc

theorem isNumeral_of_goesOn (h : (Lexeme.number text).token? = some token)
    (hc : token.GoesOn c) : IsNumeral c := by
  obtain ⟨literal, -, rfl⟩ := Option.map_eq_some_iff.1 h
  exact hc

/-- A character between tokens is white space, a token, or the first of one. -/
theorem of_begin? (h : begin? c = some (tokens, next)) : next.Proper ∧ ∀ more cs,
    Spells more (next.taken ++ cs) → Spells (tokens ++ more) (c :: cs) := by
  unfold begin? at h
  split at h
  case h_12 =>
    split at h
    · cases h
      exact ⟨trivial, fun _ _ => id⟩
    · split at h <;> cases h
      exact ⟨trivial, fun _ _ => id⟩
  all_goals cases h
  case h_1 | h_2 | h_3 | h_4 => exact ⟨trivial, fun _ _ => .gap (by decide)⟩
  case h_11 => exact ⟨.nil, fun _ _ => id⟩
  case h_5 => exact ⟨trivial, fun _ _ => .token .openBracket fun _ _ => id⟩
  case h_6 => exact ⟨trivial, fun _ _ => .token .closeBracket fun _ _ => id⟩
  case h_7 => exact ⟨trivial, fun _ _ => .token .openBrace fun _ _ => id⟩
  case h_8 => exact ⟨trivial, fun _ _ => .token .closeBrace fun _ _ => id⟩
  case h_9 => exact ⟨trivial, fun _ _ => .token .comma fun _ _ => id⟩
  case h_10 => exact ⟨trivial, fun _ _ => .token .colon fun _ _ => id⟩

/-- A character behind a word or number, which ends there. -/
theorem of_ended (hends : ∀ token, lexeme.token? = some token → ¬token.GoesOn c)
    (h : lexChar?.ended lexeme c = some (tokens, next)) : next.Proper ∧ ∀ more cs,
    Spells more (next.taken ++ cs) → Spells (tokens ++ more) (lexeme.taken ++ c :: cs) := by
  obtain ⟨token, htoken, h⟩ := Option.bind_eq_some_iff.1 h
  obtain ⟨⟨begun, _⟩, hbegin, h⟩ := Option.bind_eq_some_iff.1 h
  cases h
  obtain ⟨hproper, hspells⟩ := of_begin? hbegin
  refine ⟨hproper, fun more cs hmore => ?_⟩
  refine .token (isWritten_of_token? htoken) ?_ (hspells more cs hmore)
  rintro _ ⟨⟩
  exact hends token htoken

/-- A character inside a string. -/
theorem of_inString? {escape : Escape} (hproper : (Lexeme.string text escape).Proper)
    (h : inString? text c escape = some (tokens, next)) : next.Proper ∧ ∀ more cs,
    Spells more (next.taken ++ cs) →
      Spells (tokens ++ more) ((Lexeme.string text escape).taken ++ c :: cs) := by
  have hgoes (escape : Escape) : ∀ more cs,
      Spells more ((Lexeme.string (c :: text) escape).taken ++ cs) →
        Spells more ((Lexeme.string text escape).taken ++ c :: cs) := by
    intro more cs hmore
    simpa [Lexeme.taken] using hmore
  cases escape with
  | none =>
    rw [inString?] at h
    split at h
    · next hquote =>
      cases h
      obtain rfl := beq_iff_eq.1 hquote
      refine ⟨trivial, fun more cs hmore => ?_⟩
      have hstring := Spells.token (.string hproper) (fun _ _ => id) hmore
      simpa [Lexeme.taken] using hstring
    next hquote =>
    split at h
    · cases h
    next hcontrol =>
    cases h
    refine ⟨?_, hgoes _⟩
    split
    · next hbackslash =>
      obtain rfl := beq_iff_eq.1 hbackslash
      exact ⟨text.reverse, List.reverse_cons, hproper⟩
    · next hbackslash =>
      rw [Lexeme.Proper, List.reverse_cons]
      exact hproper.append (.plain (by simpa using hquote) (by simpa using hbackslash)
        (not_lt.1 hcontrol) .nil)
  | backslash =>
    obtain ⟨body, htext, hbody⟩ := hproper
    rw [inString?] at h
    split at h
    · next hu =>
      cases h
      obtain rfl := beq_iff_eq.1 hu
      refine ⟨⟨body, [], ?_, hbody, rfl, by decide, nofun⟩, hgoes _⟩
      rw [List.reverse_cons, htext, List.append_assoc]
      rfl
    · split at h
      · next hletter =>
        cases h
        refine ⟨?_, hgoes _⟩
        rw [Lexeme.Proper, List.reverse_cons, htext, List.append_assoc]
        exact hbody.append (.letter (List.contains_iff_mem.1 hletter) .nil)
      · cases h
  | hex missing =>
    obtain ⟨body, ds, htext, hbody, hlength, hmissing, hds⟩ := hproper
    rw [inString?] at h
    split at h
    · next hc =>
      cases h
      refine ⟨?_, hgoes _⟩
      have hall : ∀ d ∈ ds ++ [c], isHexDigit d = true :=
        List.forall_mem_append.2 ⟨hds, List.forall_mem_singleton.2 hc⟩
      have htaken : (c :: text).reverse = body ++ '\\' :: 'u' :: (ds ++ [c]) := by
        rw [List.reverse_cons, htext, List.append_assoc]
        rfl
      split
      · obtain ⟨p, q, r, rfl⟩ := List.length_eq_three.1 (show ds.length = 3 by omega)
        rw [Lexeme.Proper, htaken]
        exact hbody.append (.unit hall .nil)
      · exact ⟨body, ds ++ [c], htaken, hbody, by simp; omega, by omega, hall⟩
    · cases h

/-- A character that is accepted belongs to the lexeme that is open, or ends it. -/
theorem of_lexChar? (hproper : lexeme.Proper) (h : lexChar? lexeme c = some (tokens, next)) :
    next.Proper ∧ ∀ more cs, Spells more (next.taken ++ cs) →
      Spells (tokens ++ more) (lexeme.taken ++ c :: cs) := by
  cases lexeme with
  | between => exact of_begin? h
  | string text escape => exact of_inString? hproper h
  | word text =>
    rw [lexChar?] at h
    split at h
    · cases h
      refine ⟨trivial, fun more cs hmore => ?_⟩
      simpa [Lexeme.taken] using hmore
    · next hc => exact of_ended (fun token htoken => mt (isLower_of_goesOn htoken) hc) h
  | number text =>
    rw [lexChar?] at h
    split at h
    · cases h
      refine ⟨trivial, fun more cs hmore => ?_⟩
      simpa [Lexeme.taken] using hmore
    · next hc =>
      exact of_ended (fun token htoken => mt (isNumeral_of_goesOn htoken) (mt isNumeral_iff.2 hc)) h

/-- What is taken for tokens is spelt by the text. -/
theorem spells_of_lexFrom? (hproper : lexeme.Proper) (h : lexFrom? lexeme cs = some tokens) :
    Spells tokens (lexeme.taken ++ cs) := by
  induction cs generalizing lexeme tokens with
  | nil =>
    cases lexeme with
    | between =>
      cases h
      exact .nil
    | string => cases h
    | word | number =>
      obtain ⟨token, htoken, rfl⟩ := Option.map_eq_some_iff.1 h
      exact .token (isWritten_of_token? htoken) nofun .nil
  | cons c cs ih =>
    rw [lexFrom?] at h
    obtain ⟨⟨read, next⟩, hread, h⟩ := Option.bind_eq_some_iff.1 h
    obtain ⟨rest, hrest, h⟩ := Option.bind_eq_some_iff.1 h
    cases h
    obtain ⟨hnext, hspells⟩ := of_lexChar? hproper hread
    exact hspells rest cs (ih hnext hrest)

/-- A text is cut into the tokens that it spells. -/
theorem lex?_eq_some_iff : lex? cs = some tokens ↔ Spells tokens cs :=
  ⟨spells_of_lexFrom? (show Lexeme.between.Proper from trivial), Spells.lex?⟩

/-- The texts of a document are those that spell its tokens. -/
theorem Document.parse?_eq_some_iff {d : Document} :
    Document.parse? cs = some d ↔ Spells d.tokens cs := by
  rw [← lex?_eq_some_iff]
  constructor
  · intro h
    obtain ⟨tokens, htokens, h⟩ := Option.bind_eq_some_iff.1 h
    rwa [← Builder.foldlM_eq_done_iff.1 h]
  · intro h
    exact Option.bind_eq_some_iff.2 ⟨_, h, Builder.foldlM_eq_done_iff.2 rfl⟩

end PagedQuery.Json
