import ArchiveSearch.Proofs.Token.Written

/-! # What tokens are read from

A text is cut into stretches from which tokens are read and single characters between them that
belong to no token. Every stretch holds an even number of quotes, so of all the characters that are
skipped at most one is a quote, the last of an odd number; the others are blanks.
-/

namespace ArchiveSearch.Query.Token

open Text (isBlank)

/-! ## Quoted and bare values -/

/-- Puts one quote in place of every two in a row. -/
def halveQuotes : List Char → List Char
  | '"' :: '"' :: rest => '"' :: halveQuotes rest
  | c :: rest => c :: halveQuotes rest
  | [] => []

theorem halveQuotes_flatMap (value : List Char) :
    halveQuotes (value.flatMap fun c => if c = '"' then ['"', '"'] else [c]) = value := by
  induction value with
  | nil => rfl
  | cons c value ih =>
      by_cases hc : c = '"'
      · simp only [hc, List.flatMap_cons, if_true, List.cons_append, List.nil_append, halveQuotes,
          ih]
      · simp only [List.flatMap_cons, if_neg hc, List.cons_append, List.nil_append]
        rw [halveQuotes, ih]
        intro tail hquote _
        exact hc hquote

/-- What is read behind an opening quote is the quoted form of the value. -/
theorem closeQuote_eq_some {text value after : List Char}
    (h : closeQuote text = some (value, after)) : '"' :: text = quote value ++ after := by
  fun_induction closeQuote text generalizing value after with
  | case1 => simp at h
  | case2 text value' after' hclose ih =>
      obtain ⟨rfl, rfl⟩ : '"' :: value' = value ∧ after' = after := by simpa using h
      have hrest : text = value'.flatMap (fun c => if c = '"' then ['"', '"'] else [c]) ++
          '"' :: after' := by simpa [quote] using ih hclose
      simp [quote, hrest]
  | case3 text hclose ih =>
      -- The pair cannot be passed, so its first quote closes the value.
      obtain ⟨rfl, rfl⟩ : [] = value ∧ '"' :: text = after := by simpa using h
      rfl
  | case4 text hpair =>
      obtain ⟨rfl, rfl⟩ : [] = value ∧ text = after := by simpa using h
      rfl
  | case5 c text hpair hc value' after' hclose ih =>
      obtain ⟨rfl, rfl⟩ : c :: value' = value ∧ after' = after := by simpa using h
      have hrest : text = value'.flatMap (fun c => if c = '"' then ['"', '"'] else [c]) ++
          '"' :: after' := by simpa [quote] using ih hclose
      simp [quote, hrest, hc]
  | case6 c text hpair hc hclose ih => simp at h

/-- A quoted value closes wherever there is a quote to close it. -/
theorem closeQuote_eq_none_iff {text : List Char} : closeQuote text = none ↔ '"' ∉ text := by
  fun_induction closeQuote text with
  | case1 => simp
  | case2 => simp
  | case3 => simp
  | case4 => simp
  | case5 c text hpair hc value after hclose ih =>
      have hmem : '"' ∈ text := by simpa [hclose] using ih
      simp [hmem]
  | case6 c text hpair hc hclose ih =>
      have hmem : '"' ∉ text := by simpa [hclose] using ih
      simp [hmem, Ne.symm hc]

/-- A text from which a value is read: it is the value, bare, or it stands between quotes and gives
the value when its doubled quotes are halved. -/
def IsValueText (value text : List Char) : Prop :=
  text = value ∧ (∀ c ∈ text, isBare c = true) ∨
    ∃ inner, text = '"' :: inner ++ ['"'] ∧ value = halveQuotes inner

theorem readValue_eq {text value after : List Char} (h : readValue text = (value, after)) :
    ∃ taken, text = taken ++ after ∧ IsValueText value taken ∧ taken.count '"' % 2 = 0 := by
  unfold readValue at h
  split at h
  next read hread =>
    subst h
    cases text with
    | nil => simp [readQuoted?] at hread
    | cons c text =>
        by_cases hc : c = '"'
        · subst hc
          refine ⟨quote value, closeQuote_eq_some hread, .inr ⟨_, rfl, ?_⟩, count_quote value⟩
          exact (halveQuotes_flatMap value).symm
        · simp [readQuoted?, hc] at hread
  next =>
    obtain ⟨rfl, rfl⟩ : text.takeWhile isBare = value ∧ text.dropWhile isBare = after := by
      simpa using h
    have hbare : ∀ c ∈ text.takeWhile isBare, isBare c = true := fun c hc =>
      List.mem_takeWhile_imp hc
    refine ⟨_, List.takeWhile_append_dropWhile.symm, .inl ⟨rfl, hbare⟩, ?_⟩
    have hquote : '"' ∉ text.takeWhile isBare := fun hmem => by simpa [isBare] using hbare _ hmem
    rw [List.count_eq_zero.mpr hquote]

/-! ## Tokens -/

/-- A text from which a token is read: dashes, as many as its sign asks for, the name of its
command and a colon if it has one, and its value. Its quotes are even in number. -/
structure IsReadFrom (t : Token) (text : List Char) : Prop where
  positive : t.positive = ((text.takeWhile (· == '-')).length % 2 == 0)
  value : ∃ body, text.dropWhile (· == '-') = t.command.elim [] (·.toList ++ [':']) ++ body ∧
    IsValueText t.value.toList body
  count_quote : text.count '"' % 2 = 0

theorem readName?_eq_some {text name rest : List Char} (h : readName? text = some (name, rest)) :
    text = name ++ ':' :: rest := by
  have hsplit := List.takeWhile_append_dropWhile (p := Char.isAlpha) (l := text)
  unfold readName? at h
  split at h
  next hname hrest =>
    simp only [Option.some.injEq, Prod.mk.injEq] at h
    rw [← h.1, ← h.2, ← hsplit, hname, hrest]
  next => simp at h

/-- Dashes in front of a text that does not begin with one more. -/
theorem takeWhile_append_of_isPrefix {α : Type} {p : α → Bool} {text front : List α}
    (h : front <+: text.dropWhile p) :
    (text.takeWhile p ++ front).takeWhile p = text.takeWhile p ∧
      (text.takeWhile p ++ front).dropWhile p = front := by
  have hall : ∀ a ∈ text.takeWhile p, p a = true := fun a ha => List.mem_takeWhile_imp ha
  cases front with
  | nil =>
      rw [List.append_nil]
      exact ⟨List.takeWhile_eq_self_iff.mpr hall, List.dropWhile_eq_nil_iff.mpr hall⟩
  | cons a front =>
      obtain ⟨after, hafter⟩ := h
      have hstop : p a = false := by
        have hhead := List.head?_dropWhile_not p text
        rw [← hafter] at hhead
        simpa using hhead
      rw [takeWhile_append_stop hstop, dropWhile_append_stop hstop,
        List.takeWhile_eq_self_iff.mpr hall, List.dropWhile_eq_nil_iff.mpr hall]
      exact ⟨rfl, rfl⟩

/-- The text in front of what a token leaves is one from which the token is read. -/
theorem isReadFrom_of_read? {text after : List Char} {t : Token}
    (h : read? text = some (t, after)) : ∃ taken, text = taken ++ after ∧ t.IsReadFrom taken := by
  have hsplit := List.takeWhile_append_dropWhile (p := (· == '-')) (l := text)
  have hdashes : (text.takeWhile (· == '-')).count '"' = 0 := List.count_eq_zero.mpr fun hmem => by
    simpa using List.mem_takeWhile_imp hmem
  -- Whatever is taken behind the dashes, they stay the dashes of what is taken in all.
  have hjoin {front : List Char} {command : Option String} {value : List Char}
      (hfront : text.dropWhile (· == '-') = front ++ after)
      (hvalue : ∃ body, front = command.elim [] (·.toList ++ [':']) ++ body ∧
        IsValueText value body)
      (hcount : front.count '"' % 2 = 0) :
      ∃ taken, text = taken ++ after ∧ IsReadFrom ⟨command,
        (text.takeWhile (· == '-')).length % 2 == 0, String.ofList value⟩ taken := by
    have hprefix : front <+: text.dropWhile (· == '-') := ⟨after, hfront.symm⟩
    obtain ⟨htake, hdrop⟩ := takeWhile_append_of_isPrefix hprefix
    refine ⟨text.takeWhile (· == '-') ++ front, ?_, ?_⟩
    · rw [List.append_assoc, ← hfront, hsplit]
    · refine ⟨by rw [htake], ?_, ?_⟩
      · simpa only [hdrop, String.toList_ofList] using hvalue
      · rw [List.count_append, hdashes, Nat.zero_add, hcount]
  simp only [read?] at h
  split at h
  next name rest hname =>
    obtain ⟨rfl, rfl⟩ := Prod.mk.inj (Option.some.inj h)
    obtain ⟨taken, htaken, hvalue, hcount⟩ := readValue_eq (Prod.eta (readValue rest)).symm
    have hfront : text.dropWhile (· == '-') = (name ++ ':' :: taken) ++ (readValue rest).2 := by
      rw [readName?_eq_some hname, List.append_assoc, List.cons_append, ← htaken]
    have hletters : name.count '"' = 0 := List.count_eq_zero.mpr fun hmem => by
      simpa using (readName?_letters hname).2 _ hmem
    apply hjoin hfront
    · exact ⟨taken, by simp, hvalue⟩
    · simpa [hletters] using hcount
  next hname =>
    split at h
    next => simp at h
    next =>
      obtain ⟨rfl, rfl⟩ := Prod.mk.inj (Option.some.inj h)
      obtain ⟨taken, htaken, hvalue, hcount⟩ :=
        readValue_eq (Prod.eta (readValue (text.dropWhile (· == '-')))).symm
      exact hjoin htaken ⟨taken, by simp, hvalue⟩ hcount

/-- Where no token begins stands a blank, or the last quote. -/
theorem isBlank_or_of_read?_eq_none {c : Char} {text : List Char} (h : read? (c :: text) = none) :
    isBlank c = true ∨ c = '"' ∧ '"' ∉ text := by
  have hdash : (c == '-') = false := by
    by_contra hdash
    have hc : (c == '-') = true := by simpa using hdash
    simp only [read?, List.takeWhile_cons, hc, if_true, List.isEmpty_cons, Bool.false_and] at h
    split at h <;> simp at h
  have hstart : startsValue (c :: text) = false := by
    simp only [read?, List.takeWhile_cons, List.dropWhile_cons, hdash] at h
    split at h
    next => simp at h
    next => simpa using h
  obtain ⟨hquoted, hbare⟩ : readQuoted? (c :: text) = none ∧ isBare c = false := by
    simpa [startsValue] using hstart
  by_cases hc : c = '"'
  · subst hc
    exact .inr ⟨rfl, closeQuote_eq_none_iff.mp hquoted⟩
  · exact .inl (by simpa [isBare, hc] using hbare)

/-! ## A text in pieces -/

/-- A piece of a text: a token with the text from which it is read, or a character that belongs to
no token. -/
inductive Piece where
  | token (t : Token) (text : List Char)
  | skipped (c : Char)
deriving DecidableEq, Repr

namespace Piece

def text : Piece → List Char
  | token _ text => text
  | skipped c => [c]

def token? : Piece → Option Token
  | token t _ => some t
  | skipped _ => none

def skipped? : Piece → Option Char
  | token _ _ => none
  | skipped c => some c

end Piece

/-- The pieces of a text: a token and what was taken for it, as long as one begins, or else the
next character. -/
def pieces (text : List Char) : List Piece :=
  match h : read? text with
  | some (token, after) =>
      have := read?_length h
      .token token (text.take (text.length - after.length)) :: pieces after
  | none =>
      match text with
      | [] => []
      | c :: rest => .skipped c :: pieces rest
termination_by text.length

theorem filterMap_token?_pieces (text : List Char) :
    (pieces text).filterMap Piece.token? = scan text := by
  fun_induction pieces text with
  | case1 text token after hread hlength ih =>
      rw [scan_of_read?_eq_some hread, ← ih]
      rfl
  | case2 => simp
  | case3 c rest hread ih =>
      rw [scan_of_read?_eq_none hread, ← ih]
      rfl

/-- The pieces are the whole text, and every token is read from its piece. -/
theorem flatMap_text_pieces (text : List Char) :
    (pieces text).flatMap Piece.text = text ∧
      ∀ t taken, Piece.token t taken ∈ pieces text → t.IsReadFrom taken := by
  fun_induction pieces text with
  | case1 text token after hread hlength ih =>
      obtain ⟨taken, rfl, htaken⟩ := isReadFrom_of_read? hread
      have htake : (taken ++ after).take ((taken ++ after).length - after.length) = taken := by
        simp
      rw [htake]
      refine ⟨?_, ?_⟩
      · rw [List.flatMap_cons, ih.1]
        rfl
      · intro t other hmem
        rcases List.mem_cons.mp hmem with heq | hmem
        · obtain ⟨rfl, rfl⟩ := Piece.token.inj heq
          exact htaken
        · exact ih.2 t other hmem
  | case2 => simp
  | case3 c rest hread ih =>
      refine ⟨?_, ?_⟩
      · rw [List.flatMap_cons, ih.1]
        rfl
      · intro t other hmem
        rcases List.mem_cons.mp hmem with heq | hmem
        · cases heq
        · exact ih.2 t other hmem

theorem isBlank_or_of_mem_skipped {text : List Char} {c : Char}
    (hc : c ∈ (pieces text).filterMap Piece.skipped?) : isBlank c = true ∨ c = '"' := by
  fun_induction pieces text with
  | case1 text token after hread hlength ih => exact ih hc
  | case2 => simp at hc
  | case3 d rest hread ih =>
      rw [List.filterMap_cons_some (f := Piece.skipped?) rfl] at hc
      rcases List.mem_cons.mp hc with rfl | hc
      · exact (isBlank_or_of_read?_eq_none hread).imp_right And.left
      · exact ih hc

/-- Tokens take quotes in pairs, and a quote is skipped only when it is the last one. -/
theorem count_skipped (text : List Char) :
    ((pieces text).filterMap Piece.skipped?).count '"' = text.count '"' % 2 := by
  fun_induction pieces text with
  | case1 text token after hread hlength ih =>
      obtain ⟨taken, rfl, htaken⟩ := isReadFrom_of_read? hread
      have heven := htaken.count_quote
      rw [List.filterMap_cons_none rfl, ih, List.count_append]
      omega
  | case2 => simp
  | case3 c rest hread ih =>
      rw [List.filterMap_cons_some (f := Piece.skipped?) rfl, List.count_cons, ih, List.count_cons]
      by_cases hc : c = '"'
      · -- A quote that is skipped has none behind it to close it.
        have hrest : '"' ∉ rest := by
          rcases isBlank_or_of_read?_eq_none hread with hblank | ⟨-, hrest⟩
          · exact absurd hc (ne_of_isBlank hblank (by decide))
          · exact hrest
        simp [hc, List.count_eq_zero.mpr hrest]
      · simp [hc]

end ArchiveSearch.Query.Token

namespace ArchiveSearch.Query

/-- Splitting a query into tokens loses nothing but blanks and one quote that cannot be closed. The
pieces of the query are all of it, in order; they hold its tokens, each with the text that it is
read from. A character that belongs to no token is a blank or a quote, and a quote is skipped only
in a query with an odd number of them, and only once. -/
theorem tokenize_pieces (query : String) :
    let pieces := Token.pieces query.toList
    pieces.flatMap Token.Piece.text = query.toList ∧
    pieces.filterMap Token.Piece.token? = tokenize query ∧
    (∀ t taken, .token t taken ∈ pieces → t.IsReadFrom taken) ∧
    (∀ c ∈ pieces.filterMap Token.Piece.skipped?, Text.isBlank c = true ∨ c = '"') ∧
    (pieces.filterMap Token.Piece.skipped?).count '"' = query.toList.count '"' % 2 := by
  intro pieces
  obtain ⟨htext, htokens⟩ := Token.flatMap_text_pieces query.toList
  exact ⟨htext, Token.filterMap_token?_pieces query.toList, htokens,
    fun c hc => Token.isBlank_or_of_mem_skipped hc, Token.count_skipped query.toList⟩

/-- A token with a quote in its value, in front of a quote that cannot be closed. -/
theorem tokenize_pieces_openQuote :
    let query := "-id:\"a\"\"b\" \""
    let taken := "-id:\"a\"\"b\"".toList
    let pieces := Token.pieces query.toList
    (.token ⟨some "id", false, "a\"b"⟩ taken ∈ pieces ∧
      Token.IsReadFrom ⟨some "id", false, "a\"b"⟩ taken) ∧
    ('"' ∈ pieces.filterMap Token.Piece.skipped? ∧ (Text.isBlank '"' = true ∨ '"' = '"')) := by
  intro query taken pieces
  have htoken : .token ⟨some "id", false, "a\"b"⟩ taken ∈ pieces := by decide +kernel
  have hskipped : '"' ∈ pieces.filterMap Token.Piece.skipped? := by decide +kernel
  obtain ⟨-, -, hread, hblank, -⟩ := tokenize_pieces query
  exact ⟨⟨htoken, hread _ _ htoken⟩, hskipped, hblank _ hskipped⟩

end ArchiveSearch.Query
