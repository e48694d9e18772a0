/-
  SchemaRecovery.Proofs.ReferenceGrammar

  Which texts are type references, and of what. A reference has its tokens
  (`lexemes`), which in a row are its plainest writing
  (`flatMap_text_lexemes`). A text is read as a reference exactly if it is these
  tokens with blanks around and between them, and every name in the reference is
  a name (`ofLabel_spelled`).

  The reader goes in two steps, and so does the proof. Cutting a text into
  tokens undoes their spacing as long as no two names stand side by side
  (`tokens?_of_spaced`, `spaced_of_tokensFrom`); reading tokens undoes `lexemes`
  (`readType_lexemes`, `lexemes_of_read`).
-/
import Mathlib.Data.List.Chain
import SchemaRecovery.Schema.Fields

namespace SchemaRecovery.TypeReference

/-! ## The writing of a reference -/

/-- The text is a name: a letter or an underscore, and then letters, digits,
    underscores, dots, slashes and arity marks. -/
def IsName (s : Text) : Prop :=
  ∃ c rest, s = c :: rest ∧ c.holds isNameStart = true ∧ ∀ d ∈ rest, d.holds isNameChar = true

/-- All names of the reference are names. -/
inductive WellFormed : TypeReference → Prop
  | mk {name : Text} {arguments : List TypeReference} {rank : Nat} (isName : IsName name)
      (inner : ∀ t ∈ arguments, WellFormed t) : WellFormed ⟨name, arguments, rank⟩

/-- The token as it is written. -/
def Token.text : Token → Text
  | .name s => s
  | .less => "<"
  | .comma => ","
  | .greater => ">"
  | .opening => "["
  | .closing => "]"

/-- The tokens of `rank` pairs of brackets. -/
def brackets : Nat → List Token
  | 0 => []
  | rank + 1 => .opening :: .closing :: brackets rank

mutual

/-- The tokens of a reference. -/
def lexemes : TypeReference → List Token
  | ⟨name, arguments, rank⟩ => .name name :: (argumentLexemes arguments ++ brackets rank)

/-- The tokens of the arguments with the marks around them; without arguments
there are none. -/
def argumentLexemes : List TypeReference → List Token
  | [] => []
  | t :: rest => .less :: (lexemes t ++ moreLexemes rest)

/-- The tokens of the arguments after another one, to the closing mark. -/
def moreLexemes : List TypeReference → List Token
  | [] => [.greater]
  | t :: rest => .comma :: (lexemes t ++ moreLexemes rest)

end

/-- The text consists of blanks. -/
def Blanks (s : Text) : Prop := ∀ c ∈ s, c.holds isBlank = true

/-- The text is the tokens in a row, with any blanks before, after and between
    them. -/
inductive Spaced : List Token → Text → Prop
  | nil {blanks : Text} (h : Blanks blanks) : Spaced [] blanks
  | cons {blanks : Text} (h : Blanks blanks) (t : Token) {ts : List Token} {s : Text}
      (rest : Spaced ts s) : Spaced (t :: ts) (blanks ++ t.text ++ s)

/-- What holds of a reference if it holds of its arguments holds of all. -/
@[elab_as_elim]
theorem inductionOn {motive : TypeReference → Prop} (r : TypeReference)
    (mk : ∀ name arguments rank, (∀ t ∈ arguments, motive t) → motive ⟨name, arguments, rank⟩) :
    motive r := by
  obtain ⟨name, arguments, rank⟩ := r
  exact mk name arguments rank fun t _ => inductionOn t mk

theorem flatMap_text_brackets (rank : Nat) :
    (brackets rank).flatMap Token.text = arraySuffix rank := by
  induction rank with
  | zero => rfl
  | succ rank ih =>
      show Token.text .opening ++ (Token.text .closing ++ (brackets rank).flatMap Token.text) = _
      rw [ih]
      rfl

theorem flatMap_text_moreLexemes {arg : TypeReference} {args : List TypeReference}
    (h : ∀ t ∈ arg :: args, t.lexemes.flatMap Token.text = t.fullName) :
    (lexemes arg ++ moreLexemes args).flatMap Token.text =
      Text.join "," (fullName arg :: fullNames args) ++ ">" := by
  induction args generalizing arg with
  | nil =>
      rw [List.flatMap_append, h arg List.mem_cons_self, moreLexemes, fullNames]
      simp [Text.join, Token.text]
  | cons next args ih =>
      rw [List.flatMap_append, h arg List.mem_cons_self, moreLexemes, List.flatMap_cons,
        ih fun t ht => h t (List.mem_cons_of_mem arg ht), fullNames]
      simp [Text.join, Token.text, List.intercalate]

/-- The tokens of a reference in a row are its plainest writing. -/
theorem flatMap_text_lexemes (r : TypeReference) :
    r.lexemes.flatMap Token.text = r.fullName := by
  induction r using inductionOn with
  | mk name arguments rank ih =>
      rw [lexemes, List.flatMap_cons, List.flatMap_append, flatMap_text_brackets]
      cases arguments with
      | nil =>
          rw [argumentLexemes, fullName]
          rfl
      | cons arg args =>
          rw [argumentLexemes, List.flatMap_cons, flatMap_text_moreLexemes ih, fullName]
          simp only [Token.text, List.append_assoc]

/-! ## Tokens side by side -/

/-- The token is a name. -/
def Token.isName : Token → Bool
  | .name _ => true
  | _ => false

/-- The tokens do not begin with a name. -/
def Parted (ts : List Token) : Prop := ∀ t ∈ ts.head?, t.isName = false

/-- Of two tokens side by side at most one is a name. -/
def Separated (ts : List Token) : Prop := ts.IsChain fun t u => t.isName = false ∨ u.isName = false

theorem Separated.cons {t : Token} {ts : List Token} (h : Separated ts)
    (hpart : t.isName = false ∨ Parted ts) : Separated (t :: ts) := by
  apply List.isChain_cons.mpr
  exact ⟨fun u hu => hpart.imp_right fun hts => hts u hu, h⟩

theorem Separated.append {ts us : List Token} (ht : Separated ts) (hu : Separated us)
    (hpart : Parted us) : Separated (ts ++ us) := by
  apply List.isChain_append.mpr
  exact ⟨ht, hu, fun _ _ u hu => Or.inr (hpart u hu)⟩

theorem Separated.tail {t : Token} {ts : List Token} (h : Separated (t :: ts)) :
    Separated ts ∧ (t.isName = true → Parted ts) := by
  obtain ⟨hhead, hts⟩ := List.isChain_cons.mp h
  refine ⟨hts, fun hname u hu => ?_⟩
  rcases hhead u hu with hno | hno
  · rw [hname] at hno
    cases hno
  · exact hno

theorem separated_brackets (rank : Nat) : Separated (brackets rank) ∧ Parted (brackets rank) := by
  induction rank with
  | zero => exact ⟨.nil, nofun⟩
  | succ rank ih =>
      refine ⟨(ih.1.cons (Or.inl rfl)).cons (Or.inl rfl), ?_⟩
      simp [Parted, brackets, Token.isName]

theorem separated_moreLexemes {args : List TypeReference}
    (h : ∀ t ∈ args, Separated t.lexemes) :
    Separated (moreLexemes args) ∧ Parted (moreLexemes args) := by
  induction args with
  | nil =>
      rw [moreLexemes]
      exact ⟨.singleton _, by simp [Parted, Token.isName]⟩
  | cons arg args ih =>
      obtain ⟨harg, hargs⟩ := List.forall_mem_cons.mp h
      obtain ⟨hmore, hpart⟩ := ih hargs
      rw [moreLexemes]
      exact ⟨(harg.append hmore hpart).cons (Or.inl rfl), by simp [Parted, Token.isName]⟩

/-- A reference never has two names side by side. -/
theorem separated_lexemes (r : TypeReference) : Separated r.lexemes := by
  induction r using inductionOn with
  | mk name arguments rank ih =>
      obtain ⟨hbrackets, hpart⟩ := separated_brackets rank
      rw [lexemes]
      cases arguments with
      | nil =>
          rw [argumentLexemes]
          exact hbrackets.cons (Or.inr hpart)
      | cons arg args =>
          obtain ⟨harg, hargs⟩ := List.forall_mem_cons.mp ih
          obtain ⟨hmore, hmorePart⟩ := separated_moreLexemes hargs
          rw [argumentLexemes, List.cons_append]
          apply Separated.cons
          · exact ((harg.append hmore hmorePart).append hbrackets hpart).cons (Or.inl rfl)
          · exact Or.inr (by simp [Parted, Token.isName])

/-- All names among the tokens are names. -/
def NamesOnly (ts : List Token) : Prop := ∀ s, Token.name s ∈ ts → IsName s

theorem namesOnly_append {ts us : List Token} :
    NamesOnly (ts ++ us) ↔ NamesOnly ts ∧ NamesOnly us := by
  unfold NamesOnly
  simp only [List.mem_append]
  grind

theorem namesOnly_cons {t : Token} {ts : List Token} :
    NamesOnly (t :: ts) ↔ (∀ s, t = .name s → IsName s) ∧ NamesOnly ts := by
  unfold NamesOnly
  simp only [List.mem_cons]
  grind

theorem namesOnly_brackets (rank : Nat) : NamesOnly (brackets rank) := by
  induction rank with
  | zero => exact nofun
  | succ rank ih => exact namesOnly_cons.mpr ⟨nofun, namesOnly_cons.mpr ⟨nofun, ih⟩⟩

theorem namesOnly_moreLexemes {args : List TypeReference} :
    NamesOnly (moreLexemes args) ↔ ∀ t ∈ args, NamesOnly t.lexemes := by
  induction args with
  | nil =>
      rw [moreLexemes]
      simp [NamesOnly]
  | cons arg args ih =>
      rw [moreLexemes, namesOnly_cons, namesOnly_append, ih, List.forall_mem_cons]
      simp

/-- A reference is well formed if all names among its tokens are names. -/
theorem wellFormed_iff (r : TypeReference) : r.WellFormed ↔ NamesOnly r.lexemes := by
  induction r using inductionOn with
  | mk name arguments rank ih =>
      have harguments : NamesOnly (argumentLexemes arguments) ↔
          ∀ t ∈ arguments, NamesOnly t.lexemes := by
        cases arguments with
        | nil => simp [argumentLexemes, NamesOnly]
        | cons arg args =>
            rw [argumentLexemes, namesOnly_cons, namesOnly_append, namesOnly_moreLexemes,
              List.forall_mem_cons]
            simp
      rw [lexemes, namesOnly_cons, namesOnly_append, harguments]
      constructor
      · rintro ⟨hname, hinner⟩
        refine ⟨fun s hs => ?_, fun t ht => (ih t ht).mp (hinner t ht), namesOnly_brackets rank⟩
        exact Token.name.inj hs ▸ hname
      · rintro ⟨hname, hinner, -⟩
        exact .mk (hname name rfl) fun t ht => (ih t ht).mpr (hinner t ht)

/-! ## Cutting a text into tokens -/

/-- No blank is a name character. -/
theorem not_goesOn_of_isBlank {c : CodePoint} (hc : c.holds isBlank = true) (word : Text) :
    goesOn word c = false := by
  cases c with
  | half n => cases hc
  | char c =>
      have hcases : c = ' ' ∨ c = '\t' ∨ c = '\x0c' ∨ c = '\r' ∨ c = '\n' := by
        simpa [CodePoint.holds, isBlank, or_assoc] using hc
      unfold goesOn
      rcases hcases with rfl | rfl | rfl | rfl | rfl
      all_goals split <;> decide

/-- A blank ends the name before it. -/
theorem tokensFrom_blank {c : CodePoint} (hc : c.holds isBlank = true) (word rest : Text) :
    tokensFrom word (c :: rest) = (tokensFrom [] rest).map (nameToken word ++ ·) := by
  rw [tokensFrom, not_goesOn_of_isBlank hc, if_neg Bool.false_ne_true, if_pos hc]

/-- Blanks, if there are any, end the name before them. -/
theorem tokensFrom_blanks {blanks : Text} (h : Blanks blanks) (word rest : Text) :
    tokensFrom word (blanks ++ rest) = if blanks = [] then tokensFrom word rest
      else (tokensFrom [] rest).map (nameToken word ++ ·) := by
  induction blanks generalizing word with
  | nil => rfl
  | cons c blanks ih =>
      obtain ⟨hc, hblanks⟩ := List.forall_mem_cons.mp h
      rw [List.cons_append, tokensFrom_blank hc, ih hblanks, if_neg (List.cons_ne_nil c blanks)]
      split
      · rfl
      · rw [Option.map_map]
        rfl

/-- A mark is a token of its own and ends the name before it. -/
theorem tokensFrom_mark {t : Token} (ht : t.isName = false) (word rest : Text) :
    tokensFrom word (t.text ++ rest) =
      (tokensFrom [] rest).map fun ts => nameToken word ++ t :: ts := by
  cases t with
  | name s => cases ht
  | less | comma | greater | opening | closing =>
      show tokensFrom word (.char _ :: rest) = _
      rw [tokensFrom, if_neg, if_neg (by decide)]
      · rfl
      · unfold goesOn
        split <;> decide

/-- A name that has begun goes on as far as there are name characters. -/
theorem tokensFrom_goesOn {word more : Text} (hword : word ≠ [])
    (hmore : ∀ c ∈ more, c.holds isNameChar = true) (rest : Text) :
    tokensFrom word (more ++ rest) = tokensFrom (more.reverse ++ word) rest := by
  induction more generalizing word with
  | nil => rfl
  | cons c more ih =>
      obtain ⟨hc, hmore⟩ := List.forall_mem_cons.mp hmore
      have hgoesOn : goesOn word c = true := by
        unfold goesOn
        rw [if_neg (by simpa using hword)]
        exact hc
      rw [List.cons_append, tokensFrom, if_pos hgoesOn, ih (List.cons_ne_nil c word) hmore,
        List.reverse_cons, List.append_assoc]
      rfl

theorem tokensFrom_name {s : Text} (h : IsName s) (rest : Text) :
    tokensFrom [] (s ++ rest) = tokensFrom s.reverse rest := by
  obtain ⟨c, more, rfl, hc, hmore⟩ := h
  have hgoesOn : goesOn [] c = true := hc
  rw [List.cons_append, tokensFrom, if_pos hgoesOn, List.reverse_cons]
  exact tokensFrom_goesOn (List.cons_ne_nil c []) hmore rest

theorem nameToken_reverse {s : Text} (h : IsName s) : nameToken s.reverse = [.name s] := by
  obtain ⟨c, more, rfl, -, -⟩ := h
  simp [nameToken]

/-- Spaced tokens are found again, if no two names stand side by side: the name
    before them, if any, ends where they begin. -/
theorem tokensFrom_of_spaced {ts : List Token} {s : Text} (hs : Spaced ts s)
    (hnames : NamesOnly ts) (hsep : Separated ts) {word : Text} (hword : word = [] ∨ Parted ts) :
    tokensFrom word s = some (nameToken word ++ ts) := by
  induction hs generalizing word with
  | nil h =>
      rename_i blanks
      rw [← List.append_nil blanks, tokensFrom_blanks h]
      split <;> simp [tokensFrom, nameToken]
  | cons h t rest ih =>
      rename_i blanks ts s
      obtain ⟨ht, hnamesRest⟩ := namesOnly_cons.mp hnames
      obtain ⟨hsepRest, hpart⟩ := hsep.tail
      -- Without blanks the token stands right after the name before it.
      have htoken : ∀ {word : Text}, (word = [] ∨ t.isName = false) →
          tokensFrom word (t.text ++ s) = some (nameToken word ++ t :: ts) := by
        intro word hword
        cases hname : t.isName with
        | false =>
            rw [tokensFrom_mark hname, ih hnamesRest hsepRest (Or.inl rfl)]
            rfl
        | true =>
            obtain rfl : word = [] := hword.resolve_right (by simp [hname])
            cases t with
            | name w =>
                have hw := ht w rfl
                show tokensFrom [] (w ++ s) = _
                rw [tokensFrom_name hw, ih hnamesRest hsepRest (Or.inr (hpart rfl)),
                  nameToken_reverse hw]
                rfl
            | less | comma | greater | opening | closing => cases hname
      rw [List.append_assoc, tokensFrom_blanks h]
      split
      · exact htoken (hword.imp_right fun hts => hts t rfl)
      · rw [htoken (Or.inl rfl)]
        rfl

theorem tokens?_of_spaced {ts : List Token} {s : Text} (hs : Spaced ts s)
    (hnames : NamesOnly ts) (hsep : Separated ts) : tokens? s = some ts :=
  tokensFrom_of_spaced hs hnames hsep (Or.inl rfl)

/-- A part of a name, last character first. -/
def Begun (word : Text) : Prop := word = [] ∨ IsName word.reverse

theorem Begun.goesOn {word : Text} {c : CodePoint} (h : Begun word)
    (hc : TypeReference.goesOn word c = true) : Begun (c :: word) := by
  right
  rcases h with rfl | ⟨d, rest, hword, hd, hrest⟩
  · exact ⟨c, [], rfl, hc, nofun⟩
  · have hchar : c.holds isNameChar = true := by
      unfold TypeReference.goesOn at hc
      rw [if_neg] at hc
      · exact hc
      · intro hempty
        rw [List.isEmpty_iff.mp hempty] at hword
        cases hword
    refine ⟨d, rest ++ [c], ?_, hd, ?_⟩
    · rw [List.reverse_cons, hword]
      rfl
    · intro x hx
      rcases List.mem_append.mp hx with hx | hx
      · exact hrest x hx
      · rw [List.mem_singleton.mp hx]
        exact hchar

/-- A token may stand before others with no blank. -/
theorem Spaced.tight {s : Text} {ts : List Token} (h : Spaced ts s) (t : Token) :
    Spaced (t :: ts) (t.text ++ s) :=
  Spaced.cons (show Blanks [] from nofun) t h

/-- The name before spaced tokens is one more of them. -/
theorem Spaced.nameToken {word s : Text} {ts : List Token} (hword : Begun word)
    (h : Spaced ts s ∧ NamesOnly ts) :
    Spaced (TypeReference.nameToken word ++ ts) (word.reverse ++ s) ∧
      NamesOnly (TypeReference.nameToken word ++ ts) := by
  rcases hword with rfl | hname
  · exact h
  · have htoken := nameToken_reverse hname
    rw [List.reverse_reverse] at htoken
    rw [htoken]
    refine ⟨h.1.tight (.name word.reverse), ?_⟩
    exact namesOnly_cons.mpr ⟨fun w hw => Token.name.inj hw ▸ hname, h.2⟩

theorem Spaced.blank {c : CodePoint} {s : Text} {ts : List Token} (hc : c.holds isBlank = true)
    (h : Spaced ts s) : Spaced ts (c :: s) := by
  cases h with
  | nil hblanks => exact .nil (List.forall_mem_cons.mpr ⟨hc, hblanks⟩)
  | cons hblanks t rest =>
      exact .cons (List.forall_mem_cons.mpr ⟨hc, hblanks⟩) t rest

theorem text_of_ofPoint? {c : CodePoint} {t : Token} (h : Token.ofPoint? c = some t) :
    t.text = [c] ∧ t.isName = false := by
  unfold Token.ofPoint? at h
  split at h
  all_goals cases h
  all_goals exact ⟨rfl, rfl⟩

/-- The tokens of a text are spaced in it. -/
theorem spaced_of_tokensFrom {word s : Text} {ts : List Token} (hword : Begun word)
    (h : tokensFrom word s = some ts) : Spaced ts (word.reverse ++ s) ∧ NamesOnly ts := by
  induction s generalizing word ts with
  | nil =>
      rw [tokensFrom, Option.some.injEq] at h
      rw [← h, ← List.append_nil (TypeReference.nameToken word)]
      exact Spaced.nameToken hword ⟨.nil nofun, nofun⟩
  | cons c rest ih =>
      -- The character goes on with the name, ends it, or is a token of its own.
      rw [tokensFrom] at h
      split at h
      · rename_i hc
        have hgoesOn := ih (hword.goesOn hc) h
        rw [List.reverse_cons, List.append_assoc] at hgoesOn
        exact hgoesOn
      · split at h
        · rename_i hc
          obtain ⟨us, hus, rfl⟩ := Option.map_eq_some_iff.mp h
          obtain ⟨hspaced, hnames⟩ := ih (Or.inl rfl) hus
          exact Spaced.nameToken hword ⟨hspaced.blank hc, hnames⟩
        · split at h
          · cases h
          · rename_i t ht
            obtain ⟨us, hus, rfl⟩ := Option.map_eq_some_iff.mp h
            obtain ⟨hspaced, hnames⟩ := ih (Or.inl rfl) hus
            obtain ⟨htext, hmark⟩ := text_of_ofPoint? ht
            have hcons := hspaced.tight t
            rw [htext] at hcons
            refine Spaced.nameToken hword ⟨hcons, namesOnly_cons.mpr ⟨fun w hw => ?_, hnames⟩⟩
            rw [hw] at hmark
            cases hmark

/-! ## Reading tokens -/

/-- The tokens after a reference: none, or those after an argument. -/
def Ended (rest : List Token) : Prop := ∀ t ∈ rest.head?, t = .comma ∨ t = .greater

theorem takeBrackets_of_ended {rest : List Token} (h : Ended rest) :
    takeBrackets rest = (0, rest) := by
  unfold takeBrackets
  split
  · rcases h .opening rfl with hno | hno
    all_goals cases hno
  · rfl

theorem takeBrackets_brackets (rank : Nat) {rest : List Token} (h : Ended rest) :
    takeBrackets (brackets rank ++ rest) = (rank, rest) := by
  induction rank with
  | zero => exact takeBrackets_of_ended h
  | succ rank ih =>
      show takeBrackets (.opening :: .closing :: (brackets rank ++ rest)) = _
      rw [takeBrackets, ih]

theorem brackets_takeBrackets (ts : List Token) :
    brackets (takeBrackets ts).1 ++ (takeBrackets ts).2 = ts := by
  fun_induction takeBrackets ts with
  | case1 rest ih =>
      rw [brackets, List.cons_append, List.cons_append, ih]
  | case2 ts h => rfl

/-- Reading tokens gives references whose tokens they are. -/
theorem lexemes_of_read (n : Nat) :
    (∀ {ts t rest}, readType n ts = some (t, rest) → ts = lexemes t ++ rest) ∧
    (∀ {ts args rest}, readArguments n ts = some (args, rest) →
      ∃ arg more, args = arg :: more ∧ ts = lexemes arg ++ moreLexemes more ++ rest) := by
  -- The readers call each other with one level of depth less.
  induction n with
  | zero =>
      constructor
      · intro ts t rest h
        simp [readType] at h
      · intro ts args rest h
        simp [readArguments] at h
  | succ n ih =>
      constructor
      · intro ts t rest h
        unfold readType at h
        split at h
        · rename_i k s tail hk
          obtain rfl : n = k := Nat.succ.inj hk
          obtain ⟨⟨args, after⟩, hargs, h⟩ := Option.bind_eq_some_iff.mp h
          cases h
          obtain ⟨arg, more, rfl, rfl⟩ := ih.2 hargs
          simp only [lexemes, argumentLexemes, List.cons_append, List.append_assoc,
            brackets_takeBrackets]
        · rename_i k s tail _ hk
          cases h
          rw [lexemes, argumentLexemes, List.nil_append, List.cons_append, brackets_takeBrackets]
        · cases h
      · intro ts args rest h
        unfold readArguments at h
        obtain ⟨⟨arg, after⟩, harg, h⟩ := Option.bind_eq_some_iff.mp h
        have hts := ih.1 harg
        dsimp only at h
        split at h
        · rename_i tail
          obtain ⟨⟨more, last⟩, hmore, h⟩ := Option.bind_eq_some_iff.mp h
          cases h
          obtain ⟨next, others, rfl, rfl⟩ := ih.2 hmore
          refine ⟨arg, next :: others, rfl, ?_⟩
          simp only [hts, moreLexemes, List.append_assoc, List.cons_append]
        · cases h
          refine ⟨arg, [], rfl, ?_⟩
          rw [hts, moreLexemes, List.append_assoc]
          rfl
        · cases h

theorem length_lexemes_pos (r : TypeReference) : 0 < r.lexemes.length := by
  obtain ⟨name, arguments, rank⟩ := r
  rw [lexemes, List.length_cons]
  omega

/-- What follows an argument. -/
theorem ended_moreLexemes (args : List TypeReference) (rest : List Token) :
    Ended (moreLexemes args ++ rest) := by
  cases args with
  | nil => simp [moreLexemes, Ended]
  | cons arg args => simp [moreLexemes, Ended]

/-- Arguments are read from their tokens, if references are. -/
theorem readArguments_moreLexemes {arg : TypeReference} {args : List TypeReference}
    (h : ∀ t ∈ arg :: args, ∀ {n rest}, 2 * t.lexemes.length ≤ n → Ended rest →
      readType n (t.lexemes ++ rest) = some (t, rest)) {n : Nat} (rest : List Token)
    (hn : 2 * (lexemes arg ++ moreLexemes args).length ≤ n) :
    readArguments n (lexemes arg ++ moreLexemes args ++ rest) = some (arg :: args, rest) := by
  induction args generalizing arg n with
  | nil =>
      rw [moreLexemes, List.length_append, List.length_singleton] at hn
      obtain ⟨k, rfl⟩ : ∃ k, n = k + 1 := ⟨n - 1, by omega⟩
      rw [readArguments, List.append_assoc,
        h arg List.mem_cons_self (by omega) (ended_moreLexemes [] rest)]
      rfl
  | cons next args ih =>
      rw [moreLexemes, List.length_append, List.length_cons] at hn
      obtain ⟨k, rfl⟩ : ∃ k, n = k + 1 := ⟨n - 1, by omega⟩
      have hmore : readArguments k (lexemes next ++ moreLexemes args ++ rest) =
          some (next :: args, rest) :=
        ih (fun t ht => h t (List.mem_cons_of_mem arg ht)) (by omega)
      rw [readArguments, List.append_assoc,
        h arg List.mem_cons_self (by omega) (ended_moreLexemes (next :: args) rest)]
      show (readArguments k (lexemes next ++ moreLexemes args ++ rest) >>= _) = _
      rw [hmore]
      rfl

/-- A reference is read from its tokens, whatever comes after them. -/
theorem readType_lexemes (r : TypeReference) {n : Nat} {rest : List Token}
    (hn : 2 * r.lexemes.length ≤ n) (hrest : Ended rest) :
    readType n (r.lexemes ++ rest) = some (r, rest) := by
  induction r using inductionOn generalizing n rest with
  | mk name arguments rank ih =>
      have hpos := length_lexemes_pos ⟨name, arguments, rank⟩
      obtain ⟨k, rfl⟩ : ∃ k, n = k + 1 := ⟨n - 1, by omega⟩
      cases arguments with
      | nil =>
          have hplain : ∀ tail, brackets rank ++ rest ≠ .less :: tail := by
            intro tail htail
            cases rank with
            | zero =>
                rw [show rest = .less :: tail from htail] at hrest
                rcases hrest .less rfl with hno | hno
                all_goals cases hno
            | succ rank => cases htail
          rw [lexemes, argumentLexemes, List.nil_append, List.cons_append,
            readType.eq_2 _ _ _ fun tail => hplain tail, takeBrackets_brackets rank hrest]
      | cons arg args =>
          rw [lexemes, argumentLexemes] at hn ⊢
          simp only [List.length_cons, List.length_append, List.cons_append, List.append_assoc]
            at hn ⊢
          have hargs := readArguments_moreLexemes (n := k) ih (brackets rank ++ rest)
            (by rw [List.length_append]; omega)
          rw [List.append_assoc] at hargs
          rw [readType, hargs]
          show some _ = _
          rw [takeBrackets_brackets rank hrest]

/-! ## Spellings -/

/-- A text is read as a reference exactly if it is the tokens of the reference with
    blanks around and between them, and the names of the reference are names. -/
theorem parse?_eq_some_iff {s : Text} {r : TypeReference} :
    parse? s = some r ↔ r.WellFormed ∧ Spaced r.lexemes s := by
  unfold parse?
  rw [wellFormed_iff]
  constructor
  · intro h
    obtain ⟨ts, hts, h⟩ := Option.bind_eq_some_iff.mp h
    obtain ⟨hspaced, hnames⟩ := spaced_of_tokensFrom (Or.inl rfl) hts
    split at h
    · rename_i t hread
      cases h
      have hlexemes := (lexemes_of_read _).1 hread
      rw [List.append_nil] at hlexemes
      rw [← hlexemes]
      exact ⟨hnames, hspaced⟩
    · cases h
  · rintro ⟨hnames, hspaced⟩
    have hread : readType (2 * r.lexemes.length + 1) (r.lexemes ++ []) = some (r, []) :=
      readType_lexemes r (by omega) nofun
    rw [List.append_nil] at hread
    rw [tokens?_of_spaced hspaced hnames (separated_lexemes r), Option.bind_eq_bind,
      Option.bind_some, hread]

/-- A label is read as the reference that its text spells, and a text that spells none
    is refused. -/
theorem ofLabel_spelled (s : Text) :
    (∀ r, ofLabel (some s) = .ok r ↔ r.WellFormed ∧ Spaced r.lexemes s) ∧
      (∀ e, ofLabel (some s) = .error e ↔ e = .invalidTypeReference s ∧
        ∀ r : TypeReference, ¬ (r.WellFormed ∧ Spaced r.lexemes s)) ∧
      (Failure.invalidTypeReference s).kind = .metadata ∧
      ∀ r : TypeReference, r.lexemes.flatMap Token.text = r.fullName := by
  simp only [← parse?_eq_some_iff]
  unfold ofLabel
  dsimp only
  cases parse? s with
  | none =>
      refine ⟨fun r => ?_, fun e => ?_, rfl, flatMap_text_lexemes⟩
      · simp
      · simp [eq_comm]
  | some t =>
      refine ⟨fun r => ?_, fun e => ?_, rfl, flatMap_text_lexemes⟩
      · simp
      · simp

end SchemaRecovery.TypeReference
