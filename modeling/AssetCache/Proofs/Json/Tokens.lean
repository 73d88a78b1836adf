import AssetCache.Json.Read
import AssetCache.Json.Write
import Mathlib.Data.List.Basic
import Mathlib.Data.Nat.Basic

/-!
# Written tokens are read back

A text spells some tokens if they are what is read wherever it stands before something that does
not go on with a number. Strings of any characters and numbers of any size, as they are written,
spell a single token each: the string, and the digits of the number.
-/

namespace AssetCache.Json

variable {text other rest lexeme content : List Char} {ts us more : List Token} {token : Token}
  {c : Char} {n : Nat}

/-! ### Spelling -/

/-- The tokens of a text, whether or not more could be read. -/
def Tokenizes (text : List Char) (ts : List Token) : Prop :=
  ∀ fuel, text.length ≤ fuel → tokensWithin fuel text = ts

/-- A text whose first character does not belong to a number before it. -/
def Stops (text : List Char) : Prop :=
  ∀ c ∈ text.head?, c.isDigit = false ∧ c ≠ '.' ∧ c ≠ 'e' ∧ c ≠ 'E'

/-- The tokens that a text adds to those of what follows it. -/
def Spells (text : List Char) (ts : List Token) : Prop :=
  ∀ rest more, Stops rest → Tokenizes rest more → Tokenizes (text ++ rest) (ts ++ more)

lemma tokenizes_nil : Tokenizes [] [] := by
  intro fuel _
  cases fuel <;> rfl

lemma stops_nil : Stops [] := by
  simp [Stops]

lemma Spells.tokens_eq (spells : Spells text ts) : tokens text = ts := by
  have whole := spells [] [] stops_nil tokenizes_nil
  rw [List.append_nil, List.append_nil] at whole
  exact whole text.length (Nat.le_refl _)

/-- A token that is read first stands before the others. -/
lemma Tokenizes.cons (tokenizes : Tokenizes rest more) (solid : isSpace c = false)
    (found : token? (c :: text ++ rest) = some (token, rest)) :
    Tokenizes (c :: text ++ rest) (token :: more) := by
  intro fuel enough
  cases fuel with
  | zero => simp at enough
  | succ fuel =>
    have left : rest.length ≤ fuel := by
      simp only [List.cons_append, List.length_cons, List.length_append] at enough
      omega
    rw [List.cons_append] at found ⊢
    rw [tokensWithin, List.dropWhile_cons_of_neg (by simp [solid])]
    simp only [found, tokenizes fuel left]

lemma spells_of_token (solid : isSpace c = false)
    (found : ∀ rest, Stops rest → token? (c :: text ++ rest) = some (token, rest)) :
    Spells (c :: text) [token] := by
  intro rest more stops tokenizes
  exact tokenizes.cons solid (found rest stops)

/-- A mark of one character stands before any text. -/
lemma Spells.mark (spells : Spells text ts) (c : Char) (token : Token)
    (solid : isSpace c = false) (found : ∀ rest, token? (c :: rest) = some (token, rest)) :
    Spells (c :: text) (token :: ts) := by
  intro rest more stops tokenizes
  have first : Tokenizes (c :: [] ++ (text ++ rest)) (token :: (ts ++ more)) :=
    (spells rest more stops tokenizes).cons solid (found (text ++ rest))
  exact first

lemma Spells.append (spells : Spells text ts) (spells' : Spells other us)
    (stops : ∀ rest, Stops rest → Stops (other ++ rest)) :
    Spells (text ++ other) (ts ++ us) := by
  intro rest more stop tokenizes
  rw [List.append_assoc, List.append_assoc]
  exact spells (other ++ rest) (us ++ more) (stops rest stop) (spells' rest more stop tokenizes)

/-! ### Strings -/

lemma hexCode_of_control (control : n < 0x20) :
    hexCode? '0' '0' (hexDigit (n / 16)) (hexDigit (n % 16)) = some n := by
  revert n
  decide

lemma stringCodes_escape {letter : Char} (known : escaped? letter = some c)
    (other : letter ≠ 'u') :
    stringCodes ('\\' :: letter :: text) =
      (stringCodes text).map fun (codes, after) => (c.toNat :: codes, after) := by
  rw [stringCodes.eq_4 letter text fun _ _ _ _ _ code => absurd code other]
  cases stringCodes text <;> simp [known]

/-- One character, as it is written, gives its code back. -/
lemma stringCodes_stringChar (c : Char) (text : List Char) :
    stringCodes (stringChar c ++ text) =
      (stringCodes text).map fun (codes, after) => (c.toNat :: codes, after) := by
  rw [stringChar]
  split_ifs with quote backslash backspace feed newline carriage tab control
  · exact stringCodes_escape (by rw [quote]; rfl) (by decide)
  · exact stringCodes_escape (by rw [backslash]; rfl) (by decide)
  · exact stringCodes_escape (by rw [backspace]; rfl) (by decide)
  · exact stringCodes_escape (by rw [feed]; rfl) (by decide)
  · exact stringCodes_escape (by rw [newline]; rfl) (by decide)
  · exact stringCodes_escape (by rw [carriage]; rfl) (by decide)
  · exact stringCodes_escape (by rw [tab]; rfl) (by decide)
  · simp only [List.cons_append, List.nil_append, stringCodes, hexCode_of_control control]
    cases stringCodes text <;> rfl
  · rw [List.singleton_append, stringCodes.eq_5 c text quote
      (fun _ _ _ _ _ escape => absurd escape backslash) fun _ _ escape => absurd escape backslash,
      if_neg (by simp [control, backslash])]
    cases stringCodes text <;> rfl

lemma stringCodes_written (content rest : List Char) :
    stringCodes (content.flatMap stringChar ++ '"' :: rest) =
      some (content.map Char.toNat, rest) := by
  induction content with
  | nil => rfl
  | cons c content ih =>
    rw [List.flatMap_cons, List.append_assoc, stringCodes_stringChar, ih]
    rfl

/-- No character is half a pair of surrogates. -/
lemma charsOf_toNat (content : List Char) : charsOf (content.map Char.toNat) = some content := by
  induction content with
  | nil => rfl
  | cons c content ih =>
    have lead : isLead c.toNat = false := by
      have whole : c.toNat.isValidChar := c.valid
      simp only [Nat.isValidChar] at whole
      simp only [isLead, Bool.and_eq_false_iff, decide_eq_false_iff_not]
      omega
    have trail : isTrail c.toNat = false := by
      have whole : c.toNat.isValidChar := c.valid
      simp only [Nat.isValidChar] at whole
      simp only [isTrail, Bool.and_eq_false_iff, decide_eq_false_iff_not]
      omega
    rw [List.map_cons, charsOf.eq_def]
    simp only [lead, trail, ih, Bool.false_eq_true, ↓reduceIte, Option.map_some, Char.ofNat_toNat]

/-- A string of any characters is read back. -/
lemma spells_string (content : List Char) : Spells (string content) [.string (some content)] := by
  have shape : string content = '"' :: (content.flatMap stringChar ++ ['"']) := rfl
  rw [shape]
  apply spells_of_token rfl
  intro rest _
  rw [List.cons_append, List.append_assoc, List.singleton_append, token?, stringCodes_written]
  simp only [Option.bind_eq_bind, Option.bind_some, charsOf_toNat, Option.pure_def]

/-! ### Numbers -/

lemma natOf_natural (n : Nat) : natOf (natural n) = n := by
  conv_rhs => rw [← Nat.ofDigitChars_ten_toDigits (n := n)]
  rw [natural, Nat.ofDigitChars, natOf]
  congr 1
  funext value c
  rw [Nat.mul_comm]

/-- No number but zero is written with a zero in front. -/
lemma eq_zero_of_head (zero : (natural n).head? = some '0') : n = 0 := by
  induction n using Nat.strong_induction_on with
  | _ n ih =>
    have single : ∀ n < 10, n.digitChar = '0' → n = 0 := by decide
    rw [natural, Nat.toDigits_eq_if (by decide)] at zero
    by_cases small : n < 10
    · rw [if_pos small, List.head?_cons, Option.some.injEq] at zero
      exact single n small zero
    · rw [if_neg small, List.head?_append_of_ne_nil _ Nat.toDigits_ne_nil] at zero
      have none := ih (n / 10) (by omega) zero
      omega

lemma isDigit_of_mem_natural (among : c ∈ natural n) : c.isDigit :=
  Nat.isDigit_of_mem_toDigits (by decide) (by decide) among

lemma digits_natural (n : Nat) (stops : Stops rest) :
    digits? (natural n ++ rest) = some (natural n, rest) := by
  have all_digits : ∀ c ∈ natural n, c.isDigit := fun c => isDigit_of_mem_natural
  have ends : rest.takeWhile Char.isDigit = [] ∧ rest.dropWhile Char.isDigit = rest := by
    cases rest with
    | nil => exact ⟨rfl, rfl⟩
    | cons c rest => simp [(stops c rfl).1]
  rw [digits?, List.takeWhile_append_of_pos all_digits, List.dropWhile_append_of_pos all_digits,
    ends.1, ends.2, List.append_nil]
  split
  · exact absurd ‹_› Nat.toDigits_ne_nil
  · rfl

lemma wholePart_natural (n : Nat) (stops : Stops rest) :
    wholePart? (natural n ++ rest) = some (natural n, rest) := by
  have proper : ¬((natural n).head? = some '0' ∧ (natural n).length ≠ 1) := by
    rintro ⟨zero, long⟩
    rw [eq_zero_of_head zero] at long
    contradiction
  rw [wholePart?, digits_natural n stops]
  simp only [Option.bind_eq_bind, Option.bind_some, Bool.and_eq_true, decide_eq_true_eq,
    if_neg proper]

lemma fractionPart_of_stops (stops : Stops rest) : fractionPart? rest = some ([], rest) := by
  cases rest with
  | nil => rfl
  | cons c rest =>
    exact fractionPart?.eq_2 _ fun _ point => (stops c rfl).2.1 (List.cons.inj point).1

lemma exponentPart_of_stops (stops : Stops rest) : exponentPart? rest = some ([], rest) := by
  cases rest with
  | nil => rfl
  | cons c rest => simp [exponentPart?, (stops c rfl).2.2]

lemma number_natural (n : Nat) (stops : Stops rest) :
    number? (natural n ++ rest) = some (natural n, rest) := by
  have unsigned (after : List Char) : natural n ++ rest = '-' :: after → False := by
    intro signed
    cases written : natural n with
    | nil => exact Nat.toDigits_ne_nil written
    | cons c text =>
      rw [written] at signed
      have digit : c.isDigit := isDigit_of_mem_natural (written ▸ List.mem_cons_self)
      rw [(List.cons.inj signed).1] at digit
      contradiction
  rw [number?]
  simp only [wholePart_natural n stops, fractionPart_of_stops stops, exponentPart_of_stops stops,
    List.append_nil, List.nil_append, Option.bind_eq_bind, Option.bind_some, Option.pure_def]
  exact unsigned

lemma token_of_digit (digit : c.isDigit) :
    token? (c :: text) = do
      let (lexeme, after) ← number? (c :: text)
      return (.number lexeme, after) := by
  unfold token?
  split
  case h_12 => rfl
  case h_1 => contradiction
  all_goals
    rename_i start
    rw [(List.cons.inj start).1] at digit
    contradiction

/-- A number of any size is read back. -/
lemma spells_natural (n : Nat) : Spells (natural n) [.number (natural n)] := by
  cases written : natural n with
  | nil => exact absurd written Nat.toDigits_ne_nil
  | cons c text =>
    have digit : c.isDigit := isDigit_of_mem_natural (written ▸ List.mem_cons_self)
    apply spells_of_token
    · cases space : isSpace c with
      | false => rfl
      | true =>
        simp only [isSpace, Bool.or_eq_true, decide_eq_true_eq] at space
        rcases space with ((rfl | rfl) | rfl) | rfl <;> contradiction
    · intro rest stops
      have read := number_natural n stops
      rw [written] at read
      rw [List.cons_append, token_of_digit digit, ← List.cons_append, read]
      rfl

end AssetCache.Json
