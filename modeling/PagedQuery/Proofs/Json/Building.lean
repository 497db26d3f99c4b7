import Mathlib
import PagedQuery.Json.Document

/-!
# Documents put together from tokens

A JSON document is a tree, and its tokens are those of the leaves in their order, with brackets
around arrays and objects, commas between elements and members, and a colon behind each name
(`Document.tokens`). The tokens are put together one by one, and what has been put together so far
says which tokens there were (`Builder.taken`): each token that is accepted is the next one there
(`Builder.of_step?`). So from the tokens of a document this document is built, and it is built
from no others (`Builder.foldlM_eq_done_iff`).
-/

namespace PagedQuery.Json

/-! ## The tokens of a document -/

namespace Document

mutual

/-- The tokens of a document. -/
def tokens : Document → List Token
  | .null => [.null]
  | .bool b => [.bool b]
  | .number literal => [.number literal]
  | .string text => [.string text]
  | .array elements => .openBracket :: elementTokens elements ++ [.closeBracket]
  | .object members => .openBrace :: memberTokens members ++ [.closeBrace]

/-- The tokens of the elements of an array. -/
def elementTokens : List Document → List Token
  | [] => []
  | [d] => tokens d
  | d :: ds => tokens d ++ .comma :: elementTokens ds

/-- The tokens of the members of an object. -/
def memberTokens : List (List Char × Document) → List Token
  | [] => []
  | [(name, d)] => .string name :: .colon :: tokens d
  | (name, d) :: ms => .string name :: .colon :: tokens d ++ .comma :: memberTokens ms

end

/-- The elements that have come to their end with the comma behind them. -/
def elementsTaken (elements : List Document) : List Token :=
  elements.flatMap fun d => d.tokens ++ [.comma]

/-- The members that have come to their end with the comma behind them. -/
def membersTaken (members : List (List Char × Document)) : List Token :=
  members.flatMap fun (name, d) => .string name :: .colon :: d.tokens ++ [.comma]

theorem elementTokens_concat (elements : List Document) (d : Document) :
    elementTokens (elements ++ [d]) = elementsTaken elements ++ d.tokens := by
  induction elements with
  | nil => rfl
  | cons e elements ih =>
    rw [List.cons_append, elementTokens, ih, elementsTaken, elementsTaken, List.flatMap_cons]
    · simp
    · simp

theorem memberTokens_concat (members : List (List Char × Document)) (name : List Char)
    (d : Document) : memberTokens (members ++ [(name, d)]) =
      membersTaken members ++ .string name :: .colon :: d.tokens := by
  induction members with
  | nil => rfl
  | cons m members ih =>
    obtain ⟨n, e⟩ := m
    rw [List.cons_append, memberTokens, ih, membersTaken, membersTaken, List.flatMap_cons]
    · simp
    · simp

/-- Elements with a comma behind each are elements with commas between them, and one at the end. -/
theorem elementsTaken_eq {elements : List Document} (h : elements ≠ []) :
    elementsTaken elements = elementTokens elements ++ [.comma] := by
  obtain ⟨before, d, rfl⟩ := (List.eq_nil_or_concat' elements).resolve_left h
  rw [elementTokens_concat, elementsTaken, List.flatMap_append]
  simp [elementsTaken]

theorem membersTaken_eq {members : List (List Char × Document)} (h : members ≠ []) :
    membersTaken members = memberTokens members ++ [.comma] := by
  obtain ⟨before, ⟨name, d⟩, rfl⟩ := (List.eq_nil_or_concat' members).resolve_left h
  rw [memberTokens_concat, membersTaken, List.flatMap_append]
  simp [membersTaken]

end Document

/-! ## What has been taken -/

/-- The tokens that have opened an array or object and stand in it so far. -/
def Frame.taken : Frame → List Token
  | .array before => .openBracket :: Document.elementsTaken before.reverse
  | .object before name =>
    .openBrace :: Document.membersTaken before.reverse ++ [.string name, .colon]

/-- The tokens of the arrays and objects that are still open. -/
def Frame.allTaken : List Frame → List Token
  | [] => []
  | frame :: frames => allTaken frames ++ frame.taken

namespace Builder

open Document

/-- The tokens that have been put together so far. -/
def taken : Builder → List Token
  | .value frames => Frame.allTaken frames
  | .elementOrEnd frames => Frame.allTaken frames ++ [.openBracket]
  | .memberOrEnd frames => Frame.allTaken frames ++ [.openBrace]
  | .member before frames => Frame.allTaken frames ++ .openBrace :: membersTaken before.reverse
  | .colon before name frames =>
    Frame.allTaken frames ++ .openBrace :: membersTaken before.reverse ++ [.string name]
  | .afterElement before frames =>
    Frame.allTaken frames ++ .openBracket :: elementTokens before.reverse
  | .afterMember before frames =>
    Frame.allTaken frames ++ .openBrace :: memberTokens before.reverse
  | .done d => d.tokens

/-- Behind an element or a member there is one. -/
def Proper : Builder → Prop
  | .afterElement before _ => before ≠ []
  | .afterMember before _ => before ≠ []
  | _ => True

variable {frames : List Frame} {token : Token} {b next : Builder}

theorem proper_completed (d : Document) (frames : List Frame) : (completed d frames).Proper := by
  rcases frames with _ | ⟨_ | _, frames⟩
  · trivial
  · exact List.cons_ne_nil _ _
  · exact List.cons_ne_nil _ _

theorem taken_completed (d : Document) (frames : List Frame) :
    (completed d frames).taken = Frame.allTaken frames ++ d.tokens := by
  rcases frames with _ | ⟨_ | _, frames⟩
  · rfl
  · simp [completed, taken, Frame.allTaken, Frame.taken, elementTokens_concat]
  · simp [completed, taken, Frame.allTaken, Frame.taken, memberTokens_concat]

theorem of_startValue? (h : startValue? frames token = some next) :
    next.Proper ∧ next.taken = Frame.allTaken frames ++ [token] := by
  cases token <;> cases h
  case openBracket | openBrace => exact ⟨trivial, rfl⟩
  all_goals exact ⟨proper_completed _ _, by rw [taken_completed, tokens]⟩

/-- A token that is accepted is the next one. -/
theorem of_step? (hb : b.Proper) (h : step? b token = some next) :
    next.Proper ∧ next.taken = b.taken ++ [token] := by
  unfold step? at h
  split at h
  case h_1 => exact of_startValue? h
  case h_3 =>
    obtain ⟨hproper, htaken⟩ := of_startValue? h
    exact ⟨hproper, htaken⟩
  all_goals cases h
  case h_2 | h_4 | h_9 | h_11 =>
    refine ⟨proper_completed _ _, ?_⟩
    rw [taken_completed]
    simp [tokens, taken, elementTokens, memberTokens]
  case h_5 | h_6 | h_7 =>
    exact ⟨trivial, by simp [taken, Frame.allTaken, Frame.taken, membersTaken]⟩
  case h_8 =>
    have hbefore := elementsTaken_eq (mt List.reverse_eq_nil_iff.1 hb)
    exact ⟨trivial, by simp [taken, Frame.allTaken, Frame.taken, hbefore]⟩
  case h_10 =>
    have hbefore := membersTaken_eq (mt List.reverse_eq_nil_iff.1 hb)
    exact ⟨trivial, by simp [taken, hbefore]⟩

/-- Tokens that are accepted are the next ones, in their order. -/
theorem of_foldlM_step? {tokens : List Token} (hb : b.Proper)
    (h : tokens.foldlM step? b = some next) : next.Proper ∧ next.taken = b.taken ++ tokens := by
  induction tokens generalizing b with
  | nil =>
    cases h
    exact ⟨hb, (List.append_nil _).symm⟩
  | cons token tokens ih =>
    rw [List.foldlM_cons] at h
    obtain ⟨later, hlater, h⟩ := Option.bind_eq_some_iff.1 h
    obtain ⟨hproper, htaken⟩ := of_step? hb hlater
    obtain ⟨hnext, hall⟩ := ih hproper h
    exact ⟨hnext, by rw [hall, htaken, List.append_assoc, List.singleton_append]⟩

/-! ## Building a document -/

/-- The first element of an array is put together like the others. -/
theorem foldlM_elementOrEnd (d : Document) (ds : List Document) (frames : List Frame)
    (rest : List Token) :
    (elementTokens (d :: ds) ++ rest).foldlM step? (.elementOrEnd frames) =
      (elementTokens (d :: ds) ++ rest).foldlM step? (.value (.array [] :: frames)) := by
  -- No document begins with the bracket that would end the array.
  cases ds <;> cases d <;> rfl

theorem foldlM_memberOrEnd (m : List Char × Document) (ms : List (List Char × Document))
    (frames : List Frame) (rest : List Token) :
    (memberTokens (m :: ms) ++ rest).foldlM step? (.memberOrEnd frames) =
      (memberTokens (m :: ms) ++ rest).foldlM step? (.member [] frames) := by
  cases ms <;> rfl

mutual

/-- A document takes its place when its tokens have come. -/
theorem foldlM_tokens : ∀ (d : Document) (frames : List Frame) (rest : List Token),
    (d.tokens ++ rest).foldlM step? (.value frames) = rest.foldlM step? (completed d frames)
  | .null, _, _ => rfl
  | .bool _, _, _ => rfl
  | .number _, _, _ => rfl
  | .string _, _, _ => rfl
  | .array [], _, _ => rfl
  | .object [], _, _ => rfl
  | .array (d :: ds), frames, rest => by
    have helements := foldlM_elementTokens (d :: ds) [] frames (.closeBracket :: rest)
      (List.cons_ne_nil _ _)
    rw [List.append_nil, ← foldlM_elementOrEnd] at helements
    rw [tokens, List.append_assoc]
    refine helements.trans ?_
    show rest.foldlM step? (completed (.array (d :: ds).reverse.reverse) frames) = _
    rw [List.reverse_reverse]
  | .object (m :: ms), frames, rest => by
    have hmembers := foldlM_memberTokens (m :: ms) [] frames (.closeBrace :: rest)
      (List.cons_ne_nil _ _)
    rw [List.append_nil, ← foldlM_memberOrEnd] at hmembers
    rw [tokens, List.append_assoc]
    refine hmembers.trans ?_
    show rest.foldlM step? (completed (.object (m :: ms).reverse.reverse) frames) = _
    rw [List.reverse_reverse]

/-- Elements take their places behind those that are there. -/
theorem foldlM_elementTokens : ∀ (elements before : List Document) (frames : List Frame)
    (rest : List Token), elements ≠ [] →
    (elementTokens elements ++ rest).foldlM step? (.value (.array before :: frames)) =
      rest.foldlM step? (.afterElement (elements.reverse ++ before) frames)
  | [], _, _, _, h => absurd rfl h
  | [d], before, frames, rest, _ => foldlM_tokens d (.array before :: frames) rest
  | d :: e :: ds, before, frames, rest, _ => by
    have hnext := foldlM_elementTokens (e :: ds) (d :: before) frames rest (List.cons_ne_nil _ _)
    rw [elementTokens, List.append_assoc, foldlM_tokens d, List.cons_append, List.reverse_cons,
      List.append_assoc]
    · exact hnext
    · exact List.cons_ne_nil _ _

/-- Members take their places behind those that are there. -/
theorem foldlM_memberTokens : ∀ (members before : List (List Char × Document))
    (frames : List Frame) (rest : List Token), members ≠ [] →
    (memberTokens members ++ rest).foldlM step? (.member before frames) =
      rest.foldlM step? (.afterMember (members.reverse ++ before) frames)
  | [], _, _, _, h => absurd rfl h
  | [(name, d)], before, frames, rest, _ => foldlM_tokens d (.object before name :: frames) rest
  | (name, d) :: m :: ms, before, frames, rest, _ => by
    have hnext := foldlM_memberTokens (m :: ms) ((name, d) :: before) frames rest
      (List.cons_ne_nil _ _)
    have hfirst := foldlM_tokens d (.object before name :: frames)
      (.comma :: (memberTokens (m :: ms) ++ rest))
    rw [memberTokens, List.reverse_cons, List.append_assoc, List.append_assoc _ _ before]
    · exact hfirst.trans hnext
    · exact List.cons_ne_nil _ _

end

/-- A document is built from its tokens, and from no others. -/
theorem foldlM_eq_done_iff {tokens : List Token} {d : Document} :
    (tokens.foldlM step? (.value []) >>= document?) = some d ↔ tokens = d.tokens := by
  constructor
  · intro h
    obtain ⟨built, hbuilt, h⟩ := Option.bind_eq_some_iff.1 h
    cases built <;> cases h
    exact (of_foldlM_step? (b := .value []) trivial hbuilt).2.symm
  · rintro rfl
    rw [← List.append_nil d.tokens, foldlM_tokens]
    rfl

end Builder

end PagedQuery.Json
