/-
Module: StepWeaver.Proofs.Scanning
Layer: Proofs
Purpose: How the scan reads a text that is put together from pieces. A piece in which every opened token is
  closed is scanned on its own, unless an opening mark forms across its end. Hence the scan of a template
  finds what its holes are filled with, and a literal is invisible wherever it stands. The tokens of any
  text are cut out of it one after the other, and nothing between them is a token.
Main exports: Placeholder.leftover, Placeholder.Settled, Placeholder.symbols_append,
  Placeholder.IsToken, Template, Template.render, Template.CutsOut, Template.scan_undoes_render,
  Placeholder.scan_literal_in_context
-/
import StepWeaver.Proofs.Reading

namespace StepWeaver

namespace Placeholder

theorem toList_opening : opening.toList = ['{', '{', ' '] := by decide

theorem toList_closing : closing.toList = [' ', '}', '}'] := by decide

/-!
### Where a token ends

The first closing mark is the one that counts, so what is written after it does not matter.
-/

/-- No closing mark stands before the one at which the text is cut. -/
theorem length_le_of_cutAtClosing {text label after : List Char}
    (cut : cutAtClosing text = some (label, after)) {before rest : List Char}
    (split : text = before ++ closing.toList ++ rest) : label.length ≤ before.length := by
  fun_induction cutAtClosing text generalizing label before with
  | case1 => cases cut
  | case2 tail =>
      cases cut
      exact Nat.zero_le _
  | case3 c tail notClosing ih =>
      obtain ⟨⟨label', after'⟩, found, same⟩ := Option.map_eq_some_iff.mp cut
      cases same
      cases before with
      | nil =>
          obtain ⟨rfl, tailSplit⟩ := List.cons.inj split
          exact (notClosing rest rfl tailSplit).elim
      | cons d before =>
          obtain ⟨rfl, tailSplit⟩ := List.cons.inj split
          exact Nat.succ_le_succ (ih found tailSplit)

/-- A label is cut off at the first place where a token can end. -/
theorem not_closing_of_cutAtClosing {text label after : List Char}
    (cut : cutAtClosing text = some (label, after)) : ¬ closing.toList <:+: label := by
  rintro ⟨before, rest, rfl⟩
  have split := eq_append_of_cutAtClosing cut
  rw [List.append_assoc _ rest] at split
  have early := length_le_of_cutAtClosing cut split
  simp only [List.length_append, toList_closing, List.length_cons, List.length_nil] at early
  omega

/-- Once a token has ended, what follows does not matter. -/
theorem cutAtClosing_append_of_some {text label after : List Char}
    (cut : cutAtClosing text = some (label, after)) (tail : List Char) :
    cutAtClosing (text ++ tail) = some (label, after ++ tail) := by
  rw [eq_append_of_cutAtClosing cut, List.append_assoc]
  exact cutAtClosing_append (after ++ tail) (not_closing_of_cutAtClosing cut)

/-!
### Where the scan stops
-/

/-- What the scan does not get past: the first opening mark that nothing closes, with all that follows.
    Nothing is left of a text that the scan reads to its end. -/
def leftover : List Char → List Char
  | [] => []
  | '{' :: '{' :: ' ' :: rest =>
    match _cut : cutAtClosing (' ' :: rest) with
    | none => '{' :: '{' :: ' ' :: rest
    | some (_, after) => leftover after
  | _ :: rest => leftover rest
termination_by text => text.length
decreasing_by
  · have split := congrArg List.length (eq_append_of_cutAtClosing _cut)
    simp only [List.length_cons, List.length_append] at split ⊢
    omega
  · simp

/-- The scan does not stop at an opening mark that nothing closes. -/
def Settled (text : String) : Prop := leftover text.toList = []

instance (text : String) : Decidable (Settled text) :=
  inferInstanceAs (Decidable (_ = _))

-- A closing mark that closes nothing does not matter, and braces without a blank open nothing.
example : Settled "x \x7d\x7d \x7b\x7b A \x7d\x7d \x7b\x7b" ∧ ¬ Settled "\x7b\x7b A \x7d\x7d \x7b\x7b B" := by
  decide +kernel

/-- A text in which no token opens leaves nothing open. -/
theorem leftover_of_inert {text : List Char} (inert : ¬ opening.toList <:+: text) :
    leftover text = [] := by
  fun_induction leftover text with
  | case1 => rfl
  | case2 rest _ => exact absurd (List.IsPrefix.isInfix ⟨rest, rfl⟩) inert
  | case3 rest _ _ _ _ => exact absurd (List.IsPrefix.isInfix ⟨rest, rfl⟩) inert
  | case4 c rest _ ih => exact ih fun opens => inert (List.infix_cons opens)

/-- The case in which the scan skips a character. -/
theorem not_opening_of_skipped {c : Char} {rest : List Char}
    (skipped : ∀ tail, c = '{' → rest = '{' :: ' ' :: tail → False) :
    ¬ opening.toList <+: c :: rest := by
  rintro ⟨tail, same⟩
  rw [toList_opening] at same
  obtain ⟨rfl, further⟩ := List.cons.inj same
  exact skipped tail rfl further.symm

/-- No opening mark that has started before ends at the front of the text. -/
def Apart (text : List Char) : Prop := ¬ [' '] <+: text ∧ ¬ ['{', ' '] <+: text

/-- What stands apart does not complete an opening that was not one before. -/
theorem not_opening_append_of_apart {c : Char} {text tail : List Char}
    (closed : ¬ opening.toList <+: c :: text) (apart : Apart tail) :
    ¬ opening.toList <+: c :: (text ++ tail) := by
  rw [toList_opening] at closed ⊢
  intro opens
  obtain ⟨rfl, second⟩ := List.cons_prefix_cons.mp opens
  cases text with
  | nil => exact apart.2 second
  | cons d text =>
      obtain ⟨rfl, third⟩ := List.cons_prefix_cons.mp second
      cases text with
      | nil => exact apart.1 third
      | cons e text =>
          obtain ⟨rfl, _⟩ := List.cons_prefix_cons.mp third
          exact closed ⟨text, rfl⟩

/-- A text that the scan reads to its end has the same symbols whatever follows, unless an opening mark
    forms across its end. -/
theorem symbols_append {text tail : List Char} (settled : leftover text = []) (apart : Apart tail) :
    symbols (text ++ tail) = symbols text ++ symbols tail := by
  -- The induction follows the scan of the text alone. A token that is cut out of it is cut out of the
  -- longer text too, and a character that is skipped there is skipped here.
  fun_induction leftover text with
  | case1 => rw [symbols.eq_1]; rfl
  | case2 rest _ => cases settled
  | case3 rest label after cut ih =>
      have extended := cutAtClosing_append_of_some cut tail
      calc symbols ('{' :: '{' :: ' ' :: (rest ++ tail))
          = .token (String.ofList ('{' :: '{' :: label ++ [' ', '}', '}'])) :: symbols (after ++ tail) :=
            symbols_opening_cons extended
        _ = symbols ('{' :: '{' :: ' ' :: rest) ++ symbols tail := by
            rw [symbols_opening_cons cut, ih settled]
            rfl
  | case4 c rest skipped ih =>
      have closed := not_opening_of_skipped skipped
      rw [List.cons_append, symbols_cons_of_not_opening (not_opening_append_of_apart closed apart),
        symbols_cons_of_not_opening closed, ih settled, List.cons_append]

/-!
### Tokens
-/

/-- A text that is one token: it starts with an opening mark and ends with a closing mark, and no other
    closing mark stands in it. The two marks may share their blank. -/
structure IsToken (text : String) : Prop where
  opens : opening.toList <+: text.toList
  closes : closing.toList <:+ text.toList
  once : ∀ before after, text.toList = before ++ closing.toList ++ after → after = []

/-- What the scan cuts out is a token. -/
theorem isToken_of_cutAtClosing {rest label after : List Char}
    (cut : cutAtClosing (' ' :: rest) = some (label, after)) :
    IsToken (String.ofList ('{' :: '{' :: label ++ [' ', '}', '}'])) where
  opens := by
    rw [String.toList_ofList, toList_opening]
    have split := eq_append_of_cutAtClosing cut
    cases label with
    | nil => exact ⟨['}', '}'], rfl⟩
    | cons c label =>
        obtain ⟨rfl, _⟩ := List.cons.inj split
        exact ⟨label ++ [' ', '}', '}'], rfl⟩
  closes := by
    rw [String.toList_ofList, toList_closing]
    exact ⟨'{' :: '{' :: label, rfl⟩
  once before further split := by
    rw [String.toList_ofList, toList_closing] at split
    have own := cutAtClosing_append [] (not_closing_of_cutAtClosing cut)
    -- A closing mark starts with a blank, so it stands behind the two braces.
    rcases before with _ | ⟨first, _ | ⟨second, before⟩⟩
    · simp at split
    · simp at split
    · have inner : label ++ [' ', '}', '}'] = before ++ closing.toList ++ further :=
        (List.cons.inj (List.cons.inj split).2).2
      have early := length_le_of_cutAtClosing own inner
      have lengths := congrArg List.length inner
      simp only [List.length_append, toList_closing, List.length_cons, List.length_nil] at lengths
      exact List.eq_nil_of_length_eq_zero (by omega)

theorem IsToken.not_infix_nil {token : String} (isToken : IsToken token) : ¬ token.toList <:+: [] := by
  intro within
  have opens := isToken.opens.isInfix.trans within
  rw [toList_opening] at opens
  cases List.infix_nil.mp opens

/-- A token starts only where an opening mark stands. -/
theorem IsToken.infix_of_infix_cons {token : String} (isToken : IsToken token) {c : Char}
    {text : List Char} (closed : ¬ opening.toList <+: c :: text)
    (within : token.toList <:+: c :: text) : token.toList <:+: text := by
  rcases List.infix_cons_iff.mp within with front | inside
  · exact absurd (isToken.opens.trans front) closed
  · exact inside

theorem not_closing_of_cutAtClosing_eq_none {text : List Char} (uncut : cutAtClosing text = none) :
    ¬ closing.toList <:+: text := by
  fun_induction cutAtClosing text with
  | case1 =>
      intro closes
      rw [toList_closing, List.infix_nil] at closes
      cases closes
  | case2 rest => cases uncut
  | case3 c rest notClosing ih =>
      intro closes
      rcases List.infix_cons_iff.mp closes with front | inside
      · obtain ⟨after, same⟩ := front
        rw [toList_closing] at same
        obtain ⟨rfl, further⟩ := List.cons.inj same
        exact notClosing after rfl further.symm
      · exact ih (Option.map_eq_none_iff.mp uncut) inside

/-- Behind an opening mark that nothing closes there is no token. -/
theorem IsToken.not_infix_of_unclosed {token : String} (isToken : IsToken token) {rest : List Char}
    (uncut : cutAtClosing (' ' :: rest) = none) : ¬ token.toList <:+: '{' :: '{' :: ' ' :: rest := by
  intro within
  have closes := isToken.closes.isInfix.trans within
  rw [toList_closing] at closes
  rcases List.infix_cons_iff.mp closes with front | inside
  · exact absurd (List.cons_prefix_cons.mp front).1 (by decide)
  · rcases List.infix_cons_iff.mp inside with front | further
    · exact absurd (List.cons_prefix_cons.mp front).1 (by decide)
    · exact not_closing_of_cutAtClosing_eq_none uncut further

end Placeholder

/-!
### Templates
-/

/-- A text with holes: what stands before the first hole, and every hole with what stands after it. -/
structure Template (Hole : Type) where
  lead : String
  body : List (Hole × String)

namespace Template

variable {Hole : Type}

/-- The holes, in order. -/
def holes (template : Template Hole) : List Hole := template.body.map Prod.fst

/-- The texts before, between and after the holes. -/
def texts (template : Template Hole) : List String := template.lead :: template.body.map Prod.snd

/-- The text of the template when each hole is filled. -/
def render (fill : Hole → String) (template : Template Hole) : String :=
  template.lead ++ String.join (template.body.map fun piece => fill piece.1 ++ piece.2)

open Placeholder

/-- The template shows how some tokens are cut out of a text: they are its holes, and nothing that is left
    between them is a token. -/
structure CutsOut (template : Template String) (tokens : List String) (text : String) : Prop where
  text_eq : template.render id = text
  holes_eq : template.holes = tokens
  isToken : ∀ token ∈ tokens, IsToken token
  between : ∀ piece ∈ template.texts, ∀ token, IsToken token → ¬ token.toList <:+: piece.toList

/-- A text without a token is left as it is. -/
theorem cutsOut_nil {text : String} (free : ∀ token, IsToken token → ¬ token.toList <:+: text.toList) :
    CutsOut ⟨text, []⟩ [] text where
  text_eq := String.append_empty
  holes_eq := rfl
  isToken _ member := absurd member List.not_mem_nil
  between piece member := by
    rw [List.mem_singleton.mp member]
    exact free

/-- A token in front of a text is the first one that is cut out. -/
theorem CutsOut.cons_token {template : Template String} {tokens : List String} {text token : String}
    (cutsOut : template.CutsOut tokens text) (isToken : IsToken token) :
    CutsOut ⟨"", (token, template.lead) :: template.body⟩ (token :: tokens) (token ++ text) where
  text_eq := by
    rw [← cutsOut.text_eq, render, List.map_cons, String.join_cons, String.empty_append]
    exact String.append_assoc
  holes_eq := congrArg (token :: ·) cutsOut.holes_eq
  isToken := List.forall_mem_cons.mpr ⟨isToken, cutsOut.isToken⟩
  between piece member := by
    rcases List.mem_cons.mp member with rfl | later
    · exact fun _ isToken => isToken.not_infix_nil
    · exact cutsOut.between piece later

theorem CutsOut.isPrefix_lead {template : Template String} {tokens : List String} {text : String}
    (cutsOut : template.CutsOut tokens text) : template.lead.toList <+: text.toList := by
  rw [← cutsOut.text_eq, render, String.toList_append]
  exact List.prefix_append _ _

/-- A character in front of a text goes to what stands before the first token. -/
theorem CutsOut.cons_char {template : Template String} {tokens : List String} {c : Char}
    {rest : List Char} (cutsOut : template.CutsOut tokens (String.ofList rest))
    (closed : ¬ opening.toList <+: c :: rest) :
    CutsOut ⟨String.ofList [c] ++ template.lead, template.body⟩ tokens (String.ofList (c :: rest)) where
  text_eq := by
    have longer : String.ofList (c :: rest) = String.ofList [c] ++ String.ofList rest := by
      rw [← String.ofList_append, List.singleton_append]
    rw [longer, ← cutsOut.text_eq]
    exact String.append_assoc
  holes_eq := cutsOut.holes_eq
  isToken := cutsOut.isToken
  between piece member := by
    rcases List.mem_cons.mp member with rfl | later
    · intro token isToken within
      have front := cutsOut.isPrefix_lead
      rw [String.toList_ofList] at front
      rw [String.toList_append, String.toList_ofList] at within
      -- The lead is followed by the rest of the text, so an opening mark in it would be seen there.
      have leadClosed : ¬ opening.toList <+: c :: template.lead.toList := by
        intro opens
        exact closed (opens.trans ((List.prefix_cons_inj c).mpr front))
      exact cutsOut.between template.lead List.mem_cons_self token isToken
        (isToken.infix_of_infix_cons leadClosed within)
    · exact cutsOut.between piece (List.mem_cons_of_mem _ later)

/-- The tokens that a text is read with are cut out of it. -/
theorem exists_cutsOut (text : List Char) :
    ∃ template : Template String, template.CutsOut (tokens (symbols text)) (String.ofList text) := by
  fun_induction symbols text with
  | case1 => exact ⟨_, cutsOut_nil fun _ isToken => isToken.not_infix_nil⟩
  | case2 rest uncut =>
      rw [tokens_map_char]
      refine ⟨_, cutsOut_nil ?_⟩
      intro token isToken
      rw [String.toList_ofList]
      exact isToken.not_infix_of_unclosed uncut
  | case3 rest label after cut ih =>
      obtain ⟨template, cutsOut⟩ := ih
      have split : String.ofList ('{' :: '{' :: ' ' :: rest) =
          String.ofList ('{' :: '{' :: label ++ [' ', '}', '}']) ++ String.ofList after := by
        rw [eq_append_of_cutAtClosing cut, ← String.ofList_append]
        simp
      rw [tokens_cons_token, split]
      exact ⟨_, cutsOut.cons_token (isToken_of_cutAtClosing cut)⟩
  | case4 c rest skipped ih =>
      obtain ⟨template, cutsOut⟩ := ih
      exact ⟨_, cutsOut.cons_char (not_opening_of_skipped skipped)⟩

/-- A template that is filled in holds the tokens of its holes, in order. -/
theorem tokens_render (template : Template Placeholder) (inert : ∀ text ∈ template.texts, Inert text)
    (legible : ∀ placeholder ∈ template.holes, placeholder.Legible) :
    tokens (symbols (template.render token).toList) = template.holes.map token := by
  obtain ⟨lead, body⟩ := template
  induction body generalizing lead with
  | nil =>
      have plain := symbols_of_inert (inert lead List.mem_cons_self)
      rw [render, List.map_nil, String.join_nil, String.append_empty, plain, tokens_map_char]
      rfl
  | cons piece body ih =>
      obtain ⟨hole, text⟩ := piece
      obtain ⟨leadInert, restInert⟩ := List.forall_mem_cons.mp inert
      obtain ⟨holeLegible, restLegible⟩ := List.forall_mem_cons.mp legible
      have settled := leftover_of_inert leadInert
      have split : (render token ⟨lead, (hole, text) :: body⟩).toList =
          lead.toList ++ (hole.token.toList ++ (render token ⟨text, body⟩).toList) := by
        simp [render, String.append_assoc]
      -- A token starts with two braces, which no brace of the lead can turn into an opening mark.
      have apart : Apart (hole.token.toList ++ (render token ⟨text, body⟩).toList) := by
        simp [Apart, token, opening]
      have reading : symbols (render token ⟨lead, (hole, text) :: body⟩).toList =
          lead.toList.map .char ++ ([.token hole.token] ++ symbols (render token ⟨text, body⟩).toList) := by
        rw [split, symbols_append settled apart, symbols_of_inert leadInert, reads_token holeLegible]
      rw [reading, tokens_append, tokens_map_char, List.nil_append, List.singleton_append,
        tokens_cons_token, ih text restInert restLegible]
      rfl

/-- A template is read back: if no text of it holds an opening mark and no hole is filled with a role that
    closes its token early, the scan finds the tokens of the holes, in order. And whatever a text is, the
    scan cuts tokens out of it, in order, and leaves none. -/
theorem scan_undoes_render :
    (∀ template : Template Placeholder, (∀ text ∈ template.texts, Inert text) →
      (∀ placeholder ∈ template.holes, placeholder.Legible) →
        scan (template.render token) = template.holes.map token) ∧
    ∀ text, ∃ template : Template String, template.CutsOut (scan text) text := by
  constructor
  · intro template inert legible
    rw [scan_eq_tokens]
    exact template.tokens_render inert legible
  · intro text
    obtain ⟨template, cutsOut⟩ := exists_cutsOut text.toList
    rw [String.ofList_toList, ← scan_eq_tokens] at cutsOut
    exact ⟨template, cutsOut⟩

-- Braces right before a token, a stray closing mark, a role that looks like an opening mark.
theorem scan_undoes_render_braces :
    let template : Template Placeholder :=
      ⟨"\x7b", [(.numbered "A \x7d" 2, " \x7d\x7d \x7b\x7b"), (.canonical "\x7b\x7b B", "\x7b\x7b")]⟩
    (∀ text ∈ template.texts, Inert text) ∧ (∀ placeholder ∈ template.holes, placeholder.Legible) ∧
      scan (template.render token) =
        ["\x7b\x7b A \x7d:2 \x7d\x7d", "\x7b\x7b \x7b\x7b B \x7d\x7d"] := by
  intro template
  have inert : ∀ text ∈ template.texts, Inert text := by decide
  have legible : ∀ placeholder ∈ template.holes, placeholder.Legible := by decide
  exact ⟨inert, legible, scan_undoes_render.1 template inert legible⟩

end Template

/-!
### Literals in context
-/

namespace Placeholder

open Text.Quoted (literal quote toList_literal)

/-- A literal begins with a quote, so it stands apart. -/
theorem apart_literal_append (text : String) (rest : List Char) :
    Apart ((literal text).toList ++ rest) := by
  rw [toList_literal]
  simp [Apart, quote]

/-- A literal is invisible to the scan: if the scan gets past what stands before the literal, it finds the
    tokens before the literal and the tokens after it, whatever the literal stands for. -/
theorem scan_literal_in_context (text after : String) {before : String} (settled : Settled before) :
    scan (before ++ literal text ++ after) = scan before ++ scan after := by
  have reading : symbols (before ++ literal text ++ after).toList =
      symbols before.toList ++ (plain (literal text) ++ symbols after.toList) := by
    rw [String.append_assoc, String.toList_append, String.toList_append,
      symbols_append settled (apart_literal_append text _), isPlain_literal]
  have invisible := congrArg tokens reading
  rw [tokens_append, tokens_append, tokens_plain, List.nil_append] at invisible
  simpa only [scan_eq_tokens] using invisible

theorem scan_literal_in_context_braces :
    let before := "\x7b\x7b A \x7d\x7d = \x7b\x7b"
    Settled before ∧
      scan (before ++ literal "\x7b\x7b B \x7d\x7d" ++ " \x7d\x7d\x7b\x7b C \x7d\x7d") =
        ["\x7b\x7b A \x7d\x7d", "\x7b\x7b C \x7d\x7d"] := by
  intro before
  have settled : Settled before := by decide +kernel
  have sides : scan before ++ scan " \x7d\x7d\x7b\x7b C \x7d\x7d" =
      ["\x7b\x7b A \x7d\x7d", "\x7b\x7b C \x7d\x7d"] := by decide +kernel
  exact ⟨settled, (scan_literal_in_context _ _ settled).trans sides⟩

end Placeholder

end StepWeaver
