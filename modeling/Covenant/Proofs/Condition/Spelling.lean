import Mathlib.Data.List.TakeWhile
import Covenant.Proofs.Condition.Grammar
import Covenant.Proofs.Result

/-!
# How tokens are spelled

The spellings of a token, and the texts that spell a list of tokens with any blanks around them. The
scanner takes the longest token at the front of a text; tokens that can stand side by side never run
together, with or without a blank between them, so it finds the tokens that were spelled.
-/

namespace Covenant.Condition

/-- The letters of a word. -/
structure IsWord (letters : List Char) : Prop where
  nonempty : letters ≠ []
  starts : ∀ c ∈ letters.head?, startsWord c = true
  goesOn : ∀ c ∈ letters.tail, isWordChar c = true

/-- A token is spelled with the letters. -/
inductive Spelled : Token → List Char → Prop
  | leftParen : Spelled .leftParen ['(']
  | rightParen : Spelled .rightParen [')']
  | not : Spelled .not ['!']
  | and : Spelled .and ['&', '&']
  | or : Spelled .or ['|', '|']
  | compare (comparison : Comparison) : Spelled (.compare comparison) comparison.sign.toList
  | text {quote : Char} {s : String} : quote = '"' ∨ quote = '\'' → quote ∉ s.toList →
      Spelled (.text s) (quote :: (s.toList ++ [quote]))
  | slot {name : String} : (∀ c ∈ name.toList, isWordChar c = true) →
      Spelled (.variable name) ('$' :: name.toList)
  | int {letters : List Char} {n : Int} : IsWord letters →
      Text.readQuantity? letters = some n → Spelled (.int n) letters
  | word {letters : String} : IsWord letters.toList → letters.toList.head? ≠ some '$' →
      Text.readQuantity? letters.toList = none → Spelled (.word letters) letters.toList

/-- A text spells the tokens, with any blanks around them. -/
inductive Spells : List Token → List Char → Prop
  | nil {blanks : List Char} : (∀ c ∈ blanks, isSpace c = true) → Spells [] blanks
  | cons {blanks letters text : List Char} {token : Token} {tokens : List Token} :
      (∀ c ∈ blanks, isSpace c = true) → Spelled token letters → Spells tokens text →
      Spells (token :: tokens) (blanks ++ (letters ++ text))

variable {token : Token} {tokens : List Token} {letters text : List Char} {expression : String}
  {c : Char}

/-! ## Where a token ends -/

theorem isWord_cons (hstarts : startsWord c = true) (hgoesOn : ∀ d ∈ letters, isWordChar d = true) :
    IsWord (c :: letters) where
  nonempty := List.cons_ne_nil _ _
  starts := by simpa using hstarts
  goesOn := hgoesOn

theorem IsWord.exists_cons (h : IsWord letters) :
    ∃ c rest, letters = c :: rest ∧ startsWord c = true ∧ ∀ d ∈ rest, isWordChar d = true := by
  obtain ⟨c, rest, rfl⟩ := List.exists_cons_of_ne_nil h.nonempty
  exact ⟨c, rest, rfl, h.starts c rfl, h.goesOn⟩

theorem isSpace_of_startsWord (h : startsWord c = true) : isSpace c = false := by
  rw [Bool.eq_false_iff]
  intro hspace
  have hblank : c = ' ' ∨ c = '\t' ∨ c = '\n' ∨ c = '\r' := by
    simpa [isSpace, or_assoc] using hspace
  rcases hblank with rfl | rfl | rfl | rfl <;> exact absurd h (by decide)

/-- A word does not begin with a blank or an equals sign. -/
theorem IsWord.head (h : IsWord letters) :
    ∀ c ∈ letters.head?, isSpace c = false ∧ c ≠ '=' := by
  intro c hc
  have hstarts := h.starts c hc
  refine ⟨isSpace_of_startsWord hstarts, ?_⟩
  rintro rfl
  exact absurd hstarts (by decide)

/-- A spelling does not begin with a blank, that of a token that can begin an operand does not begin
with an equals sign, and that of any other does not begin with a letter of a word. -/
theorem Spelled.head (h : Spelled token letters) :
    ∀ c ∈ letters.head?, isSpace c = false ∧
      if token.opens then c ≠ '=' else isWordChar c = false := by
  cases h with
  | slot _ | leftParen | not => simp [isSpace, Token.opens]
  | rightParen | and | or =>
    simp only [List.head?_cons, Option.mem_some_iff, forall_eq']
    decide
  | compare comparison => cases comparison <;> simp [Comparison.sign, isSpace, Token.opens] <;> decide
  | text hquote _ => rcases hquote with rfl | rfl <;> simp [isSpace, Token.opens]
  | int hletters _ => exact hletters.head
  | word hletters _ _ => exact hletters.head

theorem Spelled.nonempty (h : Spelled token letters) : letters ≠ [] := by
  cases h with
  | compare comparison => cases comparison <;> simp [Comparison.sign]
  | int hletters _ => exact hletters.nonempty
  | word hletters _ _ => exact hletters.nonempty
  | _ => simp

/-- The spelling of a token ends in front of the text: the scanner does not take more than it. -/
def Token.Ends (token : Token) (text : List Char) : Prop :=
  ∀ c ∈ text.head?, if token.closes then isWordChar c = false else c ≠ '='

theorem isWordChar_of_isSpace (h : isSpace c = true) : isWordChar c = false := by
  rw [Bool.eq_false_iff]
  intro hword
  have hstarts : startsWord c = true := by simp [startsWord, hword]
  rw [isSpace_of_startsWord hstarts] at h
  cases h

theorem ends_of_isSpace (h : ∀ c ∈ text.head?, isSpace c = true) : token.Ends text := by
  intro c hc
  have hspace := h c hc
  split
  · exact isWordChar_of_isSpace hspace
  · rintro rfl
    exact absurd hspace (by decide)

/-- A token ends where blanks and a token that can stand beside it follow. -/
theorem ends_of_spells (h : Spells tokens text) (hfits : ∀ next ∈ tokens.head?, token.Fits next) :
    token.Ends text := by
  cases h with
  | nil hblanks => exact ends_of_isSpace fun c hc => hblanks c (List.mem_of_mem_head? hc)
  | @cons blanks letters rest next tokens hblanks hspelled hrest =>
    by_cases hnone : blanks = []
    · intro c hc
      rw [hnone, List.nil_append, List.head?_append_of_ne_nil _ hspelled.nonempty] at hc
      rw [hfits next rfl]
      have hhead := (hspelled.head c hc).2
      cases hopens : next.opens with
      | true => simpa [hopens] using hhead
      | false => simpa [hopens] using hhead
    · refine ends_of_isSpace fun c hc => hblanks c (List.mem_of_mem_head? ?_)
      rwa [List.head?_append_of_ne_nil _ hnone] at hc

/-! ## Scanning what was spelled -/

/-- What satisfies a predicate at the front of a text, up to what does not. -/
theorem takeWhile_append_of_stop {p : Char → Bool} {front rest : List Char}
    (hfront : ∀ c ∈ front, p c = true) (hrest : ∀ c ∈ rest.head?, p c = false) :
    (front ++ rest).takeWhile p = front ∧ (front ++ rest).dropWhile p = rest := by
  rw [List.takeWhile_append_of_pos hfront, List.dropWhile_append_of_pos hfront]
  cases rest with
  | nil => simp
  | cons c rest =>
    have hc : p c = false := hrest c rfl
    simp [hc]

/-- The scanner takes a word that ends where the text behind it begins. -/
theorem scanOne_word (h : IsWord letters) (hends : ∀ c ∈ text.head?, isWordChar c = false) :
    scanOne expression (letters ++ text) = .ok (wordToken letters, text) := by
  obtain ⟨c, rest, rfl, hstarts, hgoesOn⟩ := h.exists_cons
  obtain ⟨htake, hdrop⟩ := takeWhile_append_of_stop hgoesOn hends
  have hquote : ¬(c == '"' || c == '\'') = true := by
    intro hquote
    have heither : c = '"' ∨ c = '\'' := by simpa using hquote
    rcases heither with rfl | rfl <;> exact absurd hstarts (by decide)
  rw [List.cons_append, scanOne, if_neg hquote, if_pos hstarts, htake, hdrop]
  -- No sign begins with a letter that starts a word.
  all_goals
    intros
    subst_vars
    exact absurd hstarts (by decide)

/-- The scanner takes a quoted text to its second quote. -/
theorem scanOne_text {quote : Char} {s : String} (hquote : quote = '"' ∨ quote = '\'')
    (hs : quote ∉ s.toList) :
    scanOne expression (quote :: (s.toList ++ [quote]) ++ text) = .ok (.text s, text) := by
  have hfront : ∀ c ∈ s.toList, (c != quote) = true := by
    intro c hc
    rw [bne_iff_ne]
    rintro rfl
    exact hs hc
  have hstop : ∀ c ∈ (quote :: text).head?, (c != quote) = false := by simp
  obtain ⟨htake, hdrop⟩ := takeWhile_append_of_stop hfront hstop
  have hquoted : (quote == '"' || quote == '\'') = true := by simpa using hquote
  rw [List.cons_append, List.append_assoc, List.singleton_append, scanOne, if_pos hquoted, htake,
    hdrop, String.ofList_toList]
  all_goals
    intros
    subst_vars
    exact absurd hquoted (by decide)

/-- A sign that an equals sign would change stands alone where none follows. -/
theorem scanOne_sign (h : ∀ c ∈ text.head?, c ≠ '=') :
    scanOne expression ('!' :: text) = .ok (.not, text) ∧
    scanOne expression ('<' :: text) = .ok (.compare .less, text) ∧
    scanOne expression ('>' :: text) = .ok (.compare .greater, text) := by
  have hrest : ∀ rest, text = '=' :: rest → False := by
    rintro rest rfl
    exact h '=' rfl rfl
  refine ⟨?_, ?_, ?_⟩
  · rw [scanOne]
    exact hrest
  · rw [scanOne]
    exact hrest
  · rw [scanOne]
    exact hrest

/-- A quantity has no dollar sign. -/
theorem readQuantity?_slot (name : List Char) : Text.readQuantity? ('$' :: name) = none := by
  simp [Text.readQuantity?, Text.readSigned?, Text.readDigits?]

theorem wordToken_of_quantity {n : Int} (hn : Text.readQuantity? letters = some n) :
    wordToken letters = .int n := by
  rw [wordToken, hn]
  rintro name rfl
  rw [readQuantity?_slot] at hn
  cases hn

theorem wordToken_of_word {word : String} (hslot : word.toList.head? ≠ some '$')
    (hn : Text.readQuantity? word.toList = none) : wordToken word.toList = .word word := by
  rw [wordToken, hn, String.ofList_toList]
  intro name hname
  rw [hname] at hslot
  exact hslot rfl

/-- The scanner takes a token that ends where the text behind it begins. -/
theorem Spelled.scanOne_eq (h : Spelled token letters) (hends : token.Ends text) :
    scanOne expression (letters ++ text) = .ok (token, text) := by
  cases h with
  | leftParen | rightParen | and | or => rfl
  | not => exact (scanOne_sign hends).1
  | compare comparison =>
    cases comparison with
    | less => exact (scanOne_sign hends).2.1
    | greater => exact (scanOne_sign hends).2.2
    | _ => rfl
  | text hquote hs => exact scanOne_text hquote hs
  | slot hname =>
    rw [scanOne_word (isWord_cons (by decide) hname) hends, wordToken, String.ofList_toList]
  | int hletters hn => rw [scanOne_word hletters hends, wordToken_of_quantity hn]
  | word hletters hslot hn => rw [scanOne_word hletters hends, wordToken_of_word hslot hn]

theorem scanFrom_of_spells {fuel : Nat} (h : Spells tokens text) (hfits : tokens.IsChain Token.Fits)
    (hfuel : text.length < fuel) : scanFrom expression fuel text = .ok tokens := by
  induction h generalizing fuel with
  | @nil blanks hblanks =>
    cases fuel with
    | zero => rfl
    | succ fuel => rw [scanFrom, List.dropWhile_eq_nil_iff.mpr hblanks]
  | @cons blanks letters text token tokens hblanks hspelled hrest ih =>
    cases fuel with
    | zero => omega
    | succ fuel =>
      obtain ⟨hnext, hchain⟩ := List.isChain_cons.mp hfits
      have hends := ends_of_spells hrest hnext
      obtain ⟨c, more, rfl⟩ := List.exists_cons_of_ne_nil hspelled.nonempty
      have hc : isSpace c = false := (hspelled.head c rfl).1
      have hlength : text.length < fuel := by
        simp only [List.length_append, List.length_cons] at hfuel
        omega
      rw [scanFrom, List.dropWhile_append_of_pos hblanks, List.cons_append,
        List.dropWhile_cons_of_neg (by simp [hc])]
      dsimp only
      rw [← List.cons_append, hspelled.scanOne_eq hends]
      change Except.bind (scanFrom expression fuel text) _ = _
      rw [ih hchain hlength]
      rfl

/-- The scanner finds the tokens that a text spells, if they can stand side by side. -/
theorem scan_of_spells (h : Spells tokens expression.toList) (hfits : tokens.IsChain Token.Fits) :
    scan expression = .ok tokens := by
  refine scanFrom_of_spells h hfits ?_
  rw [String.length_toList]
  exact Nat.lt_succ_self _

/-! ## Spelling what was scanned -/

theorem spelled_wordToken (h : IsWord letters) : Spelled (wordToken letters) letters := by
  unfold wordToken
  split
  next name =>
    have hname : ∀ d ∈ (String.ofList name).toList, isWordChar d = true := by
      rw [String.toList_ofList]
      exact h.goesOn
    have hspelled := Spelled.slot hname
    rwa [String.toList_ofList] at hspelled
  next hslot =>
    have hword : Text.readQuantity? letters = none →
        Spelled (.word (String.ofList letters)) letters := by
      intro hn
      have hspelled := @Spelled.word (String.ofList letters)
      rw [String.toList_ofList] at hspelled
      refine hspelled h (fun hhead => ?_) hn
      obtain ⟨name, rfl⟩ := List.head?_eq_some_iff.mp hhead
      exact hslot name rfl
    split
    next n hn => exact .int h hn
    next hn => exact hword hn

/-- A text up to the next quote is quoted. -/
theorem spelled_quoted {quote d : Char} {rest behind : List Char}
    (hquote : quote = '"' ∨ quote = '\'') (h : rest.dropWhile (· != quote) = d :: behind) :
    ∃ letters, quote :: rest = letters ++ behind ∧
      Spelled (.text (String.ofList (rest.takeWhile (· != quote)))) letters := by
  have hd : d = quote := by
    have hstop := List.head?_dropWhile_not (· != quote) rest
    rw [h] at hstop
    simpa using hstop
  refine ⟨quote :: (rest.takeWhile (· != quote) ++ [quote]), ?_, ?_⟩
  · rw [List.cons_append, List.append_assoc, List.singleton_append, ← hd, ← h, hd,
      List.takeWhile_append_dropWhile]
  · have hs : quote ∉ (String.ofList (rest.takeWhile (· != quote))).toList := by
      rw [String.toList_ofList]
      intro hmem
      have hne := List.mem_takeWhile_imp hmem
      simp at hne
    have hspelled := Spelled.text hquote hs
    rwa [String.toList_ofList] at hspelled

theorem spelled_of_scanOne {rest behind : List Char}
    (h : scanOne expression (c :: rest) = .ok (token, behind)) :
    ∃ letters, c :: rest = letters ++ behind ∧ Spelled token letters := by
  unfold scanOne at h
  split at h
  next => cases h
  next heq => cases h; exact ⟨['('], heq, .leftParen⟩
  next heq => cases h; exact ⟨[')'], heq, .rightParen⟩
  next heq => cases h; exact ⟨['&', '&'], heq, .and⟩
  next heq => cases h; exact ⟨['|', '|'], heq, .or⟩
  next heq => cases h; exact ⟨['=', '='], heq, .compare .equal⟩
  next heq => cases h; exact ⟨['!', '='], heq, .compare .notEqual⟩
  next heq => cases h; exact ⟨['!'], heq, .not⟩
  next heq => cases h; exact ⟨['<', '='], heq, .compare .lessOrEqual⟩
  next heq => cases h; exact ⟨['<'], heq, .compare .less⟩
  next heq => cases h; exact ⟨['>', '='], heq, .compare .greaterOrEqual⟩
  next heq => cases h; exact ⟨['>'], heq, .compare .greater⟩
  next first more _ _ _ _ _ _ _ _ _ _ _ heq =>
    rw [heq]
    split at h
    next hquote =>
      split at h
      next => cases h
      next d behind hdrop =>
        cases h
        exact spelled_quoted (by simpa using hquote) hdrop
    next =>
      split at h
      next hstarts =>
        cases h
        have hgoesOn : ∀ d ∈ more.takeWhile isWordChar, isWordChar d = true :=
          fun d hd => List.mem_takeWhile_imp hd
        refine ⟨first :: more.takeWhile isWordChar, ?_,
          spelled_wordToken (isWord_cons hstarts hgoesOn)⟩
        rw [List.cons_append, List.takeWhile_append_dropWhile]
      next => cases h

/-- A text spells the tokens that the scanner finds in it. -/
theorem spells_of_scanFrom {fuel : Nat} (h : scanFrom expression fuel text = .ok tokens)
    (hfuel : text.length < fuel) : Spells tokens text := by
  induction fuel generalizing text tokens with
  | zero => omega
  | succ fuel ih =>
    have hblanks : ∀ c ∈ text.takeWhile isSpace, isSpace c = true :=
      fun c hc => List.mem_takeWhile_imp hc
    have hlength : (text.dropWhile isSpace).length ≤ text.length := List.length_dropWhile_le ..
    rw [← List.takeWhile_append_dropWhile (p := isSpace) (l := text)]
    rw [scanFrom] at h
    split at h
    next hnone =>
      cases h
      rw [hnone, List.append_nil]
      exact .nil hblanks
    next c rest htext =>
      obtain ⟨⟨token, behind⟩, hone, h⟩ := bind_eq_ok.mp h
      obtain ⟨more, hmore, h⟩ := bind_eq_ok.mp h
      cases h
      obtain ⟨letters, hletters, hspelled⟩ := spelled_of_scanOne hone
      rw [htext, hletters, List.length_append] at hlength
      have hpos := List.length_pos_of_ne_nil hspelled.nonempty
      rw [htext, hletters]
      exact .cons hblanks hspelled (ih hmore (by omega))

/-- A text spells the tokens that the scanner finds in it. -/
theorem spells_of_scan (h : scan expression = .ok tokens) : Spells tokens expression.toList := by
  refine spells_of_scanFrom h ?_
  rw [String.length_toList]
  exact Nat.lt_succ_self _

end Covenant.Condition
