import SqlCompose.Proofs.Fragment
import SqlCompose.Proofs.Sql.Grammar

/-! Tokens of composed texts. At a blank, a parenthesis, a comma or a point a text falls into
two parts that are scanned on their own, and so the tokens of a composed fragment are those
of its parts. -/

namespace SqlCompose

namespace Token

/-- Characters that end a word and are part of no longer token. -/
def breaks : List Char :=
  [' ', '(', ')', ',', '.', '?']

theorem scan_break {c : Char} (hc : c ∈ breaks) (letters ys : List Char) :
    scan letters (c :: ys) =
      (ofChar? c).bind fun ts => (scan [] ys).map fun us => ofLetters letters ++ ts ++ us := by
  simp only [breaks, List.mem_cons, List.not_mem_nil, or_false] at hc
  rcases hc with rfl | rfl | rfl | rfl | rfl | rfl <;>
    · rw [scan]
      · cases scan [] ys <;> rfl
      all_goals exact fun _ h => absurd h (by decide)

theorem ne_of_mem_breaks {c : Char} (hc : c ∈ breaks) : c ≠ '=' ∧ c ≠ '>' := by
  constructor <;>
    · rintro rfl
      exact absurd hc (by decide)

/-- What does not start with `b` still does not when something else is appended. -/
theorem not_cons_append {a b c d : Char} {xs ys : List Char}
    (h : ∀ rest, d = a → xs = b :: rest → False) (hc : c ≠ b) :
    ∀ rest, d = a → xs ++ c :: ys = b :: rest → False := by
  intro rest hd heq
  cases xs with
  | nil => exact hc (List.cons.inj heq).1
  | cons x xs => exact h xs hd (by rw [(List.cons.inj heq).1])

/-- A text is scanned in two parts if the second starts with a break. -/
theorem scan_append {c : Char} (hc : c ∈ breaks) (letters xs ys : List Char) :
    scan letters (xs ++ c :: ys) =
      (scan letters xs).bind fun ts => (scan [] (c :: ys)).map fun us => ts ++ us := by
  obtain ⟨heq, hgt⟩ := ne_of_mem_breaks hc
  fun_induction scan letters xs with
  | case1 letters =>
    rw [List.nil_append, scan_break hc, scan_break hc]
    cases ofChar? c <;> cases scan [] ys <;> simp [ofLetters]
  | case2 letters rest ih | case3 letters rest ih | case4 letters rest ih =>
    simp only [List.cons_append, scan, ih, scan.after]
    cases scan [] rest <;> simp [Function.comp_def]
  | case5 letters d rest h₁ h₂ h₃ hd ih =>
    rw [List.cons_append, scan, if_pos hd, ih]
    · exact not_cons_append h₁ heq
    · exact not_cons_append h₂ hgt
    · exact not_cons_append h₃ heq
  | case6 letters d rest h₁ h₂ h₃ hd ih =>
    rw [List.cons_append, scan, if_neg hd, ih]
    · cases ofChar? d <;> cases scan [] rest <;> cases scan [] (c :: ys) <;> simp
    · exact not_cons_append h₁ heq
    · exact not_cons_append h₂ hgt
    · exact not_cons_append h₃ heq

/-- Letters in a row are one word. -/
theorem scan_word {letters xs : List Char} (h : ∀ c ∈ xs, isWordChar c = true) :
    scan letters xs = some (ofLetters (letters ++ xs)) := by
  induction xs generalizing letters with
  | nil => rw [scan, List.append_nil]
  | cons d xs ih =>
    have hd : isWordChar d = true := h d (List.mem_cons_self ..)
    have hne : d ≠ '<' ∧ d ≠ '>' := by
      constructor <;>
        · rintro rfl
          exact absurd hd (by decide)
    rw [scan, if_pos hd, ih fun c hc => h c (List.mem_cons_of_mem _ hc), List.append_assoc]
    · rfl
    · exact fun _ he => absurd he hne.1
    · exact fun _ he => absurd he hne.1
    · exact fun _ he => absurd he hne.2

theorem ofText_append {c : Char} (hc : c ∈ breaks) {x y : String} {ys : List Char}
    (hy : y.toList = c :: ys) :
    ofText? (x ++ y) = (ofText? x).bind fun ts => (ofText? y).map fun us => ts ++ us := by
  rw [ofText?, String.toList_append, hy, scan_append hc, ← hy]
  rfl

/-! ### Placeholders -/

theorem bind_append {ts us : List Token} {vs ws : List Value}
    (h : placeholders ts = vs.length) : bind (ts ++ us) (vs ++ ws) = bind ts vs ++ bind us ws := by
  induction ts generalizing vs with
  | nil =>
    obtain rfl : vs = [] := List.eq_nil_of_length_eq_zero h.symm
    rfl
  | cons t ts ih =>
    cases t with
    | placeholder =>
      cases vs with
      | nil => simp [placeholders] at h
      | cons v vs =>
        have h' : placeholders ts = vs.length := by simpa [placeholders] using h
        rw [List.cons_append, List.cons_append, bind, bind, ih h', List.cons_append]
    | _ =>
      have h' : placeholders ts = vs.length := by simpa [placeholders] using h
      simp [bind, ih h']

theorem bind_of_no_placeholder {ts : List Token} (h : placeholders ts = 0) : bind ts [] = ts := by
  induction ts with
  | nil => rfl
  | cons t ts ih => cases t <;> simp_all [bind, placeholders]

end Token

/-! ### Tokens of fragments -/

/-- The fragment has one parameter for each placeholder, and with the parameters in place
it consists of the given tokens. -/
def Lexes (f : Fragment) (ts : List Token) : Prop :=
  ∃ raw, Token.ofText? f.sql = some raw ∧ Token.placeholders raw = f.params.length ∧
    Token.bind raw (f.params.map Value.bound) = ts

namespace Lexes

theorem tokens {f : Fragment} {ts : List Token} (h : Lexes f ts) : f.tokens? = some ts := by
  obtain ⟨raw, hraw, -, rfl⟩ := h
  rw [Fragment.tokens?, hraw]
  rfl

theorem verbatim {sql : String} {ts : List Token} (h : Token.ofText? sql = some ts)
    (hp : Token.placeholders ts = 0) : Lexes (.verbatim sql) ts :=
  ⟨ts, h, hp, Token.bind_of_no_placeholder hp⟩

theorem bound (v : Value) : Lexes (.bound v) [.literal v.bound] :=
  have hraw : Token.ofText? "?" = some [.placeholder] := rfl
  ⟨[.placeholder], hraw, rfl, rfl⟩

/-- Where the second of two fragments starts with a break, the tokens are those of both. -/
theorem append {c : Char} (hc : c ∈ Token.breaks) {f g : Fragment} {ys : List Char}
    (hg : g.sql.toList = c :: ys) {ts us : List Token} (hts : Lexes f ts) (hus : Lexes g us) :
    Lexes (f ++ g) (ts ++ us) := by
  obtain ⟨raw, hraw, hcount, rfl⟩ := hts
  obtain ⟨raw', hraw', hcount', rfl⟩ := hus
  refine ⟨raw ++ raw', ?_, ?_, ?_⟩
  · rw [Fragment.sql_append, Token.ofText_append hc hg, hraw, hraw']
    rfl
  · rw [Fragment.params_append, List.length_append, ← hcount, ← hcount']
    exact List.count_append ..
  · rw [Fragment.params_append, List.map_append, Token.bind_append (by simpa using hcount)]

/-- A break before a fragment is a token of its own, or none. -/
theorem precede (sep : String) {c : Char} (hc : c ∈ Token.breaks) (hsep : sep.toList = [c])
    {ks : List Token} (hks : Token.ofChar? c = some ks) (hp : Token.placeholders ks = 0)
    {f : Fragment} {ts : List Token} (h : Lexes f ts) :
    Lexes (.verbatim sep ++ f) (ks ++ ts) := by
  obtain ⟨raw, hraw, hcount, rfl⟩ := h
  refine ⟨ks ++ raw, ?_, ?_, ?_⟩
  · have hscan : Token.scan [] f.sql.toList = some raw := hraw
    rw [Fragment.sql_append, Fragment.sql_verbatim, Token.ofText?, String.toList_append, hsep,
      List.singleton_append, Token.scan_break hc, hks, hscan]
    rfl
  · have happend : Token.placeholders (ks ++ raw) =
        Token.placeholders ks + Token.placeholders raw := List.count_append ..
    rw [happend, hp, hcount]
    simp
  · have hbind : Token.bind (ks ++ raw) ([] ++ f.params.map Value.bound) = _ :=
      Token.bind_append hp
    rwa [Token.bind_of_no_placeholder hp] at hbind

/-- Two fragments with a break between them. -/
theorem separated (sep : String) {c : Char} (hc : c ∈ Token.breaks) (hsep : sep.toList = [c])
    {ks : List Token} (hks : Token.ofChar? c = some ks) (hp : Token.placeholders ks = 0)
    {f g : Fragment} {ts us : List Token} (hf : Lexes f ts) (hg : Lexes g us) :
    Lexes (f ++ (.verbatim sep ++ g)) (ts ++ (ks ++ us)) := by
  have hbreak : (.verbatim sep ++ g : Fragment).sql.toList = c :: g.sql.toList := by
    simp [hsep]
  exact hf.append hc hbreak (precede sep hc hsep hks hp hg)

/-- The empty fragment has no tokens. -/
theorem empty : Lexes .empty [] :=
  ⟨[], rfl, rfl, rfl⟩

theorem spaced {f g : Fragment} {ts us : List Token} (hf : Lexes f ts) (hg : Lexes g us) :
    Lexes (f ++ .verbatim " " ++ g) (ts ++ us) := by
  rw [Fragment.append_assoc]
  exact hf.separated " " (c := ' ') (by decide) rfl rfl rfl hg

theorem parenthesized {f : Fragment} {ts : List Token} (h : Lexes f ts) :
    Lexes f.parenthesized (.opening :: (ts ++ [.closing])) := by
  rw [Fragment.parenthesized, Fragment.append_assoc]
  refine precede "(" (c := '(') (by decide) rfl rfl rfl (h.append (c := ')') (by decide) rfl ?_)
  exact verbatim rfl rfl

/-- Two fragments with an operator between them. -/
theorem infixed {f g : Fragment} {ts us : List Token} (hf : Lexes f ts) (text : String)
    {ks : List Token} (hk : Token.ofText? text = some ks) (hp : Token.placeholders ks = 0)
    (hg : Lexes g us) :
    Lexes (f ++ .verbatim (" " ++ text ++ " ") ++ g) (ts ++ (ks ++ us)) := by
  have hsplit : f ++ .verbatim (" " ++ text ++ " ") ++ g =
      f ++ .verbatim " " ++ (.verbatim text ++ .verbatim " " ++ g) := by
    apply Fragment.ext <;> simp [String.append_assoc]
  rw [hsplit]
  exact hf.spaced ((verbatim hk hp).spaced hg)

/-- A fragment with an operator after it. -/
theorem suffixed {f : Fragment} {ts : List Token} (hf : Lexes f ts) (text : String)
    {ks : List Token} (hk : Token.ofText? text = some ks) (hp : Token.placeholders ks = 0) :
    Lexes (f.appendText (" " ++ text)) (ts ++ ks) := by
  have hsplit : f.appendText (" " ++ text) = f ++ .verbatim " " ++ .verbatim text := by
    apply Fragment.ext <;> simp [Fragment.appendText, String.append_assoc]
  rw [hsplit]
  exact hf.spaced (verbatim hk hp)

theorem boundList (vs : List Value) :
    Lexes (.boundList vs) (listing (vs.map Value.bound)) := by
  induction vs with
  | nil => exact empty
  | cons v vs ih =>
    cases vs with
    | nil => exact bound v
    | cons w vs =>
      have hsplit : Fragment.boundList (v :: w :: vs) =
          .bound v ++ (.verbatim "," ++ (.verbatim " " ++ .boundList (w :: vs))) := by
        have hjoin : Fragment.boundList (v :: w :: vs) =
            .bound v ++ .verbatim ", " ++ .boundList (w :: vs) := rfl
        rw [hjoin]
        apply Fragment.ext <;> simp [← String.append_assoc]
      rw [hsplit]
      have hrest := precede " " (c := ' ') (by decide) rfl rfl rfl ih
      exact (bound v).separated "," (c := ',') (by decide) rfl rfl rfl hrest

end Lexes

end SqlCompose
