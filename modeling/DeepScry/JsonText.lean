/-
JSON values and their compact text.  The text of a value is a prefix code once
a number is followed by something other than a digit, so that the text
determines the value.
-/
import Mathlib.Data.List.TakeWhile

/-- A JSON value; its numbers are integers and its objects lists of entries. -/
inductive Json where
  | null
  | bool (value : Bool)
  | num (value : Int)
  | str (value : String)
  | arr (items : List Json)
  | obj (fields : List (String × Json))

namespace Json

/-- The letter of a two-character escape. -/
def shortEscape (c : Char) : Option Char :=
  if c = '"' then some '"'
  else if c = '\\' then some '\\'
  else if c = '\x08' then some 'b'
  else if c = '\t' then some 't'
  else if c = '\n' then some 'n'
  else if c = '\x0c' then some 'f'
  else if c = '\r' then some 'r'
  else none

/-- One character of a string.  The other control characters are written as
`u00` and two hexadecimal digits. -/
def escape (c : Char) : List Char :=
  match shortEscape c with
  | some letter => ['\\', letter]
  | none =>
      if c.toNat < 32 then
        ['\\', 'u', '0', '0', Nat.digitChar (c.toNat / 16),
          Nat.digitChar (c.toNat % 16)]
      else [c]

/-- A string with its quotes. -/
def quote (s : String) : List Char :=
  '"' :: s.toList.flatMap escape ++ ['"']

def renderInt : Int → List Char
  | .ofNat n => Nat.toDigits 10 n
  | .negSucc n => '-' :: Nat.toDigits 10 (n + 1)

mutual

/-- The text of a value, without spaces. -/
def render : Json → List Char
  | .null => ['n', 'u', 'l', 'l']
  | .bool true => ['t', 'r', 'u', 'e']
  | .bool false => ['f', 'a', 'l', 's', 'e']
  | .num value => renderInt value
  | .str value => quote value
  | .arr [] => ['[', ']']
  | .arr (item :: rest) => '[' :: render item ++ renderItems rest
  | .obj [] => ['{', '}']
  | .obj ((key, value) :: rest) =>
      '{' :: quote key ++ ':' :: render value ++ renderFields rest

/-- The further items of an array, to its end. -/
def renderItems : List Json → List Char
  | [] => [']']
  | item :: rest => ',' :: render item ++ renderItems rest

/-- The further entries of an object, to its end. -/
def renderFields : List (String × Json) → List Char
  | [] => ['}']
  | (key, value) :: rest =>
      ',' :: quote key ++ ':' :: render value ++ renderFields rest

end

/-- A text that does not go on with a digit. -/
def Delimited (text : List Char) : Prop :=
  ∀ c ∈ text.head?, c.isDigit = false

/-- The character that a letter stands for. -/
def unescape (letter : Char) : Char :=
  if letter = 'b' then '\x08'
  else if letter = 't' then '\t'
  else if letter = 'n' then '\n'
  else if letter = 'f' then '\x0c'
  else if letter = 'r' then '\r'
  else letter

theorem unescape_of_shortEscape {c letter : Char}
    (hc : shortEscape c = some letter) : unescape letter = c := by
  unfold shortEscape at hc
  repeat' split at hc
  all_goals
    cases hc
    try subst c
    try rfl

theorem shortEscape_inj {c d letter : Char}
    (hc : shortEscape c = some letter) (hd : shortEscape d = some letter) :
    c = d := by
  rw [← unescape_of_shortEscape hc, unescape_of_shortEscape hd]

theorem shortEscape_ne_u {c letter : Char}
    (hc : shortEscape c = some letter) : letter ≠ 'u' := by
  rintro rfl
  have hu := unescape_of_shortEscape hc
  rw [← hu] at hc
  cases hc

/-- The escape character and the quote are escaped. -/
theorem ne_of_shortEscape {c : Char} (hc : shortEscape c = none) :
    c ≠ '\\' ∧ c ≠ '"' := by
  constructor <;> rintro rfl <;> cases hc

theorem digitChar_inj : ∀ a < 16, ∀ b < 16,
    Nat.digitChar a = Nat.digitChar b → a = b := by
  decide

theorem escape_inj {c d : Char} {r r' : List Char}
    (h : escape c ++ r = escape d ++ r') : c = d ∧ r = r' := by
  unfold escape at h
  cases hc : shortEscape c with
  | some letter =>
      cases hd : shortEscape d with
      | some letter' =>
          simp only [hc, hd, List.cons_append, List.nil_append,
            List.cons.injEq, true_and] at h
          rcases h with ⟨rfl, hr⟩
          exact ⟨shortEscape_inj hc hd, hr⟩
      | none =>
          have hu := shortEscape_ne_u hc
          have hne := ne_of_shortEscape hd
          simp only [hc, hd] at h
          split at h <;> simp only [List.cons_append, List.nil_append,
            List.cons.injEq, true_and] at h
          · exact absurd h.1 hu
          · exact absurd h.1.symm hne.1
  | none =>
      have hne := ne_of_shortEscape hc
      cases hd : shortEscape d with
      | some letter' =>
          have hu := shortEscape_ne_u hd
          simp only [hc, hd] at h
          split at h <;> simp only [List.cons_append, List.nil_append,
            List.cons.injEq, true_and] at h
          · exact absurd h.1.symm hu
          · exact absurd h.1 hne.1
      | none =>
          have hne' := ne_of_shortEscape hd
          simp only [hc, hd] at h
          split at h <;> split at h <;> simp only [List.cons_append,
            List.nil_append, List.cons.injEq, true_and] at h
          · next hlow hlow' =>
              rcases h with ⟨hhigh, hlast, hr⟩
              have hdiv := digitChar_inj _ (by omega) _ (by omega) hhigh
              have hmod := digitChar_inj _ (by omega) _ (by omega) hlast
              have hnat : c.toNat = d.toNat := by omega
              exact ⟨Char.toNat_inj.mp hnat, hr⟩
          · exact absurd h.1.symm hne'.1
          · exact absurd h.1 hne.1
          · exact h

/-- No character is written as a bare quote. -/
theorem escape_ne_quote {c : Char} {r r' : List Char} :
    escape c ++ r ≠ '"' :: r' := by
  intro h
  unfold escape at h
  cases hc : shortEscape c with
  | some letter => simp [hc] at h
  | none =>
      have hne := ne_of_shortEscape hc
      simp only [hc] at h
      split at h <;> simp_all

theorem escapes_inj {s t : List Char} {r r' : List Char}
    (h : s.flatMap escape ++ '"' :: r = t.flatMap escape ++ '"' :: r') :
    s = t ∧ r = r' := by
  induction s generalizing t with
  | nil =>
      cases t with
      | nil => simpa using h
      | cons d t =>
          simp only [List.flatMap_nil, List.flatMap_cons, List.nil_append,
            List.append_assoc] at h
          exact absurd h.symm escape_ne_quote
  | cons c s ih =>
      cases t with
      | nil =>
          simp only [List.flatMap_nil, List.flatMap_cons, List.nil_append,
            List.append_assoc] at h
          exact absurd h escape_ne_quote
      | cons d t =>
          simp only [List.flatMap_cons, List.append_assoc] at h
          rcases escape_inj h with ⟨rfl, hrest⟩
          rcases ih hrest with ⟨rfl, hr⟩
          exact ⟨rfl, hr⟩

theorem quote_inj {s t : String} {r r' : List Char}
    (h : quote s ++ r = quote t ++ r') : s = t ∧ r = r' := by
  simp only [quote, List.cons_append, List.append_assoc, List.cons.injEq,
    true_and, List.nil_append] at h
  rcases escapes_inj h with ⟨hs, hr⟩
  exact ⟨String.toList_inj.mp hs, hr⟩

/-- Digits end where the text is delimited. -/
theorem digits_inj {n m : Nat} {r r' : List Char} (hr : Delimited r)
    (hr' : Delimited r')
    (h : Nat.toDigits 10 n ++ r = Nat.toDigits 10 m ++ r') :
    n = m ∧ r = r' := by
  have htake (n : Nat) {r : List Char} (hr : Delimited r) :
      (Nat.toDigits 10 n ++ r).takeWhile Char.isDigit = Nat.toDigits 10 n := by
    have hdigits : ∀ c ∈ Nat.toDigits 10 n, c.isDigit = true := by
      intro c hc
      exact Nat.isDigit_of_mem_toDigits (by decide) (by decide) hc
    rw [List.takeWhile_append_of_pos hdigits]
    cases r with
    | nil => simp
    | cons c rest =>
        have hc := hr c (by simp)
        simp [hc]
  have hdigits : Nat.toDigits 10 n = Nat.toDigits 10 m := by
    rw [← htake n hr, h, htake m hr']
  constructor
  · have hvalue :=
      congrArg (fun digits => Nat.ofDigitChars 10 digits 0) hdigits
    simpa using hvalue
  · rw [hdigits] at h
    exact List.append_cancel_left h

/-- The kind of value that a text begins with. -/
def leadKind (c : Char) : Nat :=
  if c = 'n' then 0
  else if c = 't' then 1
  else if c = 'f' then 2
  else if c = '"' then 3
  else if c = '[' then 4
  else if c = '{' then 5
  else if c = '-' || c.isDigit then 6
  else 7

def kind : Json → Nat
  | .null => 0
  | .bool true => 1
  | .bool false => 2
  | .str _ => 3
  | .arr _ => 4
  | .obj _ => 5
  | .num _ => 6

theorem leadKind_of_isDigit {c : Char} (hc : c.isDigit = true) :
    leadKind c = 6 := by
  have hne (d : Char) (hd : d.isDigit = false) : c ≠ d := by
    rintro rfl
    rw [hc] at hd
    cases hd
  simp [leadKind, hne 'n' rfl, hne 't' rfl, hne 'f' rfl, hne '"' rfl,
    hne '[' rfl, hne '{' rfl, hc]

/-- The first character tells the kind. -/
theorem render_lead (value : Json) :
    ∃ c rest, value.render = c :: rest ∧ leadKind c = value.kind := by
  cases value with
  | null => exact ⟨_, _, rfl, rfl⟩
  | bool value => cases value <;> exact ⟨_, _, rfl, rfl⟩
  | str value => exact ⟨_, _, rfl, rfl⟩
  | arr items => cases items <;> exact ⟨_, _, rfl, rfl⟩
  | obj fields => cases fields <;> exact ⟨_, _, rfl, rfl⟩
  | num value =>
      cases value with
      | negSucc n => exact ⟨_, _, rfl, rfl⟩
      | ofNat n =>
          cases hdigits : Nat.toDigits 10 n with
          | nil => exact absurd hdigits Nat.toDigits_ne_nil
          | cons c rest =>
              refine ⟨c, rest, hdigits, leadKind_of_isDigit ?_⟩
              exact Nat.isDigit_of_mem_toDigits (by decide) (by decide)
                (hdigits ▸ List.mem_cons_self)

theorem renderInt_inj {n m : Int} {r r' : List Char} (hr : Delimited r)
    (hr' : Delimited r') (h : renderInt n ++ r = renderInt m ++ r') :
    n = m ∧ r = r' := by
  have hminus (n m : Nat) (r r' : List Char) :
      Nat.toDigits 10 n ++ r ≠ '-' :: Nat.toDigits 10 m ++ r' := by
    intro h
    cases hdigits : Nat.toDigits 10 n with
    | nil => exact absurd hdigits Nat.toDigits_ne_nil
    | cons c rest =>
        have hc : c.isDigit = true :=
          Nat.isDigit_of_mem_toDigits (by decide) (by decide)
            (hdigits ▸ List.mem_cons_self)
        rw [hdigits, List.cons_append, List.cons_append, List.cons.injEq] at h
        rw [h.1] at hc
        cases hc
  cases n with
  | ofNat n =>
      cases m with
      | ofNat m =>
          rcases digits_inj hr hr' h with ⟨rfl, hrest⟩
          exact ⟨rfl, hrest⟩
      | negSucc m => exact absurd h (hminus _ _ _ _)
  | negSucc n =>
      cases m with
      | ofNat m => exact absurd h.symm (hminus _ _ _ _)
      | negSucc m =>
          simp only [renderInt, List.cons_append, List.cons.injEq,
            true_and] at h
          rcases digits_inj hr hr' h with ⟨hn, hrest⟩
          cases hn
          exact ⟨rfl, hrest⟩

theorem delimited_renderItems (items : List Json) (r : List Char) :
    Delimited (renderItems items ++ r) := by
  cases items <;> simp [Delimited, renderItems]

theorem delimited_renderFields (fields : List (String × Json))
    (r : List Char) : Delimited (renderFields fields ++ r) := by
  cases fields <;> simp [Delimited, renderFields]

/-- An array does not begin with its end. -/
theorem render_ne_close (value : Json) (r r' : List Char) :
    value.render ++ r ≠ ']' :: r' := by
  intro h
  rcases render_lead value with ⟨c, rest, hvalue, hc⟩
  rw [hvalue, List.cons_append, List.cons.injEq] at h
  rw [h.1] at hc
  cases value with
  | bool value => cases value <;> cases hc
  | _ => cases hc

theorem kind_eq {v w : Json} {r r' : List Char}
    (h : v.render ++ r = w.render ++ r') : v.kind = w.kind := by
  rcases render_lead v with ⟨c, rest, hv, hc⟩
  rcases render_lead w with ⟨d, rest', hw, hd⟩
  rw [hv, hw, List.cons_append, List.cons_append, List.cons.injEq] at h
  rw [← hc, ← hd, h.1]

mutual

/-- A text that is delimited determines its value and where it ends. -/
theorem render_append_inj (v w : Json) (r r' : List Char) (hr : Delimited r)
    (hr' : Delimited r') (h : v.render ++ r = w.render ++ r') :
    v = w ∧ r = r' := by
  have hkind := kind_eq h
  cases v with
  | null =>
      cases w with
      | null => simpa [render] using h
      | bool value => cases value <;> cases hkind
      | _ => cases hkind
  | bool value =>
      cases w with
      | bool value' =>
          have hvalue : value = value' := by
            cases value <;> cases value' <;> first | rfl | cases hkind
          subst hvalue
          exact ⟨rfl, List.append_cancel_left h⟩
      | _ => cases value <;> cases hkind
  | num value =>
      cases w with
      | num value' =>
          rcases renderInt_inj hr hr' h with ⟨rfl, hrest⟩
          exact ⟨rfl, hrest⟩
      | bool value' => cases value' <;> cases hkind
      | _ => cases hkind
  | str value =>
      cases w with
      | str value' =>
          rcases quote_inj h with ⟨rfl, hrest⟩
          exact ⟨rfl, hrest⟩
      | bool value' => cases value' <;> cases hkind
      | _ => cases hkind
  | arr items =>
      cases w with
      | arr items' =>
          cases items with
          | nil =>
              cases items' with
              | nil => simpa [render] using h
              | cons item' rest' =>
                  simp only [render, List.cons_append, List.nil_append,
                    List.append_assoc, List.cons.injEq, true_and] at h
                  exact absurd h.symm (render_ne_close item' _ _)
          | cons item rest =>
              cases items' with
              | nil =>
                  simp only [render, List.cons_append, List.nil_append,
                    List.append_assoc, List.cons.injEq, true_and] at h
                  exact absurd h (render_ne_close item _ _)
              | cons item' rest' =>
                  have hitems : renderItems (item :: rest) ++ r =
                      renderItems (item' :: rest') ++ r' :=
                    congrArg (',' :: ·) (List.cons.inj h).2
                  rcases renderItems_append_inj _ _ r r' hitems with
                    ⟨heq, hrest⟩
                  exact ⟨congrArg Json.arr heq, hrest⟩
      | bool value' => cases value' <;> cases hkind
      | _ => cases hkind
  | obj fields =>
      cases w with
      | obj fields' =>
          cases fields with
          | nil =>
              cases fields' with
              | nil => simpa [render] using h
              | cons field' rest' => simp [render, quote] at h
          | cons field rest =>
              cases fields' with
              | nil => simp [render, quote] at h
              | cons field' rest' =>
                  have hfields : renderFields (field :: rest) ++ r =
                      renderFields (field' :: rest') ++ r' :=
                    congrArg (',' :: ·) (List.cons.inj h).2
                  rcases renderFields_append_inj _ _ r r' hfields with
                    ⟨heq, hrest⟩
                  exact ⟨congrArg Json.obj heq, hrest⟩
      | bool value' => cases value' <;> cases hkind
      | _ => cases hkind
termination_by sizeOf v

theorem renderItems_append_inj (items items' : List Json) (r r' : List Char)
    (h : renderItems items ++ r = renderItems items' ++ r') :
    items = items' ∧ r = r' := by
  cases items with
  | nil =>
      cases items' with
      | nil => simpa [renderItems] using h
      | cons item' rest' => simp [renderItems] at h
  | cons item rest =>
      cases items' with
      | nil => simp [renderItems] at h
      | cons item' rest' =>
          simp only [renderItems, List.cons_append, List.append_assoc,
            List.cons.injEq, true_and] at h
          rcases render_append_inj item item' _ _
            (delimited_renderItems rest r) (delimited_renderItems rest' r') h
            with ⟨rfl, hrest⟩
          rcases renderItems_append_inj rest rest' r r' hrest with ⟨rfl, hr⟩
          exact ⟨rfl, hr⟩
termination_by sizeOf items

theorem renderFields_append_inj (fields fields' : List (String × Json))
    (r r' : List Char)
    (h : renderFields fields ++ r = renderFields fields' ++ r') :
    fields = fields' ∧ r = r' := by
  match fields, fields' with
  | [], [] => simpa [renderFields] using h
  | [], (key', value') :: rest' => simp [renderFields] at h
  | (key, value) :: rest, [] => simp [renderFields] at h
  | (key, value) :: rest, (key', value') :: rest' =>
      simp only [renderFields, List.cons_append, List.append_assoc,
        List.cons.injEq, true_and] at h
      rcases quote_inj h with ⟨rfl, hvalue⟩
      simp only [List.cons.injEq, true_and] at hvalue
      rcases render_append_inj value value' _ _
        (delimited_renderFields rest r) (delimited_renderFields rest' r')
        hvalue with ⟨rfl, hrest⟩
      rcases renderFields_append_inj rest rest' r r' hrest with ⟨rfl, hr⟩
      exact ⟨rfl, hr⟩
termination_by sizeOf fields

end

/-- The text of a value determines it. -/
theorem render_injective : Function.Injective render := by
  intro v w h
  have hdelimited : Delimited [] := by simp [Delimited]
  have htext : v.render ++ [] = w.render ++ [] := congrArg (· ++ []) h
  exact (render_append_inj v w [] [] hdelimited hdelimited htext).1

end Json
