import ArchiveSearch.Proofs.Book.Candidates
import ArchiveSearch.Proofs.Storage.Tree
import ArchiveSearch.Storage.Load

/-! # A book and the file of its texts

A book is loaded with the texts of a file next to its own. Its texts are missing, blocked by their
size, out of date or current, as the size of that file and the times tell, and the rest of the book
is always what its own file holds. Only texts that cannot be decoded fail, and they do so in two
ways, as the bytes of the file are a text or not.
-/

namespace ArchiveSearch

/-! ## Times -/

namespace Time

variable {t now : Time}

theorem ofNanos?_eq_some_iff {nanos : Int} : ofNanos? nanos = some t ↔ t.nanos = nanos := by
  obtain ⟨n, hn⟩ := t
  unfold ofNanos?
  split
  next => simp [eq_comm]
  next hout =>
    constructor
    · intro h
      cases h
    · rintro rfl
      exact absurd hn hout

theorem later?_eq_some_iff {deadline : Time} {nanos : Nat} :
    t.later? nanos = some deadline ↔ deadline.nanos = t.nanos + nanos :=
  ofNanos?_eq_some_iff

/-- A deadline that cannot be told is not over. -/
theorem any_later?_iff {nanos : Nat} :
    ((t.later? nanos).any fun deadline => decide (deadline.nanos < now.nanos)) = true ↔
      t.nanos + nanos < now.nanos := by
  rw [Option.any_eq_true]
  constructor
  · rintro ⟨deadline, hlater, hover⟩
    exact later?_eq_some_iff.mp hlater ▸ of_decide_eq_true hover
  · intro hover
    have hfirst : -(1000000000 <<< 63) ≤ t.nanos + nanos := by
      have hsum : t.nanos ≤ t.nanos + nanos := by omega
      exact Int.le_trans t.inRange.1 hsum
    have hlast : t.nanos + nanos < 1000000000 <<< 63 := Int.lt_trans hover now.inRange.2
    exact ⟨⟨_, hfirst, hlast⟩, later?_eq_some_iff.mpr rfl, decide_eq_true hover⟩

end Time

/-! ## What the options say of a file of texts -/

namespace LoadOptions

/-- Whether a file of texts is too large to be read. -/
def Blocks (options : LoadOptions) (texts : File) : Prop :=
  ∃ limit, options.sizeLimit = some limit ∧ limit < texts.bytes.size

/-- Whether texts are out of date: there is a threshold, the book is newer than they are, and they
are older than the threshold. -/
def OutOfDate (options : LoadOptions) (now book texts : Time) : Prop :=
  ∃ nanos, options.span? = some nanos ∧ texts.nanos < book.nanos ∧ texts.nanos + nanos < now.nanos

variable {options : LoadOptions}

theorem any_sizeLimit_iff {texts : File} :
    (options.sizeLimit.any fun limit => decide (limit < texts.bytes.size)) = true ↔
      options.Blocks texts := by
  simp [Blocks, Option.any_eq_true]

theorem isOutdated_iff {now book texts : Time} :
    isOutdated options now book texts = true ↔ options.OutOfDate now book texts := by
  unfold isOutdated OutOfDate
  cases options.span? with
  | none => simp
  | some nanos => simp [Time.any_later?_iff]

end LoadOptions

/-! ## Reading a document -/

/-- The book that the bytes of a file hold. -/
def Book.ofBytes? (bytes : ByteArray) : Option Book := (String.fromUTF8? bytes).bind ofText?

/-- The texts that the bytes of a file hold. -/
def Texts.ofBytes? (bytes : ByteArray) : Option Texts := (String.fromUTF8? bytes).bind ofText?

section Document

variable {α : Type} {ofText? : String → Option α} {t : Tree} {p : Path} {f : File}

theorem readText_of_file? (h : t.file? p = some f) :
    t.readText p = match String.fromUTF8? f.bytes with
      | some text => .ok text
      | none => .error .notText := by
  unfold Tree.file? at h
  unfold Tree.readText
  cases hat : t.at? p with
  | none => simp [hat] at h
  | some n =>
      cases n with
      | directory => simp [hat] at h
      | file g =>
          obtain rfl : g = f := by simpa [hat] using h
          rfl

theorem readDocument_eq_ok (h : t.file? p = some f) {document : α}
    (hdocument : (String.fromUTF8? f.bytes).bind ofText? = some document) :
    readDocument t p ofText? = .ok document := by
  obtain ⟨text, htext, hread⟩ := Option.bind_eq_some_iff.mp hdocument
  simp only [readDocument, readText_of_file? h, htext, Except.mapError, bind, Except.bind, hread]

/-- Bytes that are no text are a fault of the file, all other failures one of the book. -/
theorem readDocument_eq_error (h : t.file? p = some f)
    (hnone : (String.fromUTF8? f.bytes).bind ofText? = none) :
    readDocument t p ofText? =
      .error (if f.bytes.IsValidUTF8 then .corruptedBook p.text else .file .notText) := by
  by_cases hvalid : f.bytes.IsValidUTF8
  · have htext : String.fromUTF8? f.bytes = some (.ofByteArray f.bytes hvalid) := dif_pos hvalid
    have hread : ofText? (.ofByteArray f.bytes hvalid) = none := by simpa [htext] using hnone
    simp only [readDocument, readText_of_file? h, htext, Except.mapError, bind, Except.bind, hread,
      if_pos hvalid]
  · have htext : String.fromUTF8? f.bytes = none := dif_neg hvalid
    simp only [readDocument, readText_of_file? h, htext, Except.mapError, bind, Except.bind,
      if_neg hvalid]

end Document

/-! ## Loading -/

section Load

variable {t : Tree} {p : Path} {f texts : File} {book : Book} {options : LoadOptions} {now : Time}

theorem loadBook_eq (hfile : t.file? p = some f) (hbook : Book.ofBytes? f.bytes = some book) :
    loadBook t now options p = match t.file? (textsPath p) with
      | some texts => loadTexts t now options p texts book
      | none => .ok { book with status := if book.hasTexts then .current else .missing } := by
  rw [loadBook, readDocument_eq_ok hfile hbook]
  rfl

theorem loadTexts_of_blocks (h : options.Blocks texts) :
    loadTexts t now options p texts book =
      .ok { book with texts := .empty, status := .blocked texts.bytes.size } :=
  if_pos (LoadOptions.any_sizeLimit_iff.mpr h)

theorem loadTexts_of_not_blocks (hfile : t.file? p = some f) (h : ¬options.Blocks texts) :
    loadTexts t now options p texts book =
      (readDocument t (textsPath p) Texts.ofText?).map fun read =>
        { book with
          texts := read,
          status := if isOutdated options now f.modified texts.modified then .outdated
            else .current } := by
  rw [loadTexts, if_neg (mt LoadOptions.any_sizeLimit_iff.mp h), hfile]
  cases readDocument t (textsPath p) Texts.ofText? <;> rfl

/-- Texts that are read take the place of those of the book. -/
theorem loadTexts_of_read (hfile : t.file? p = some f)
    (htexts : t.file? (textsPath p) = some texts) (hblocks : ¬options.Blocks texts) {read : Texts}
    (hread : Texts.ofBytes? texts.bytes = some read) :
    ∃ status, loadTexts t now options p texts book = .ok { book with texts := read, status } ∧
      (status = .outdated ∧ options.OutOfDate now f.modified texts.modified ∨
        status = .current ∧ ¬options.OutOfDate now f.modified texts.modified) := by
  rw [loadTexts_of_not_blocks hfile hblocks, readDocument_eq_ok htexts hread,
    ← LoadOptions.isOutdated_iff]
  refine ⟨_, rfl, ?_⟩
  cases isOutdated options now f.modified texts.modified <;> simp

theorem exists_blocked_iff (hfile : t.file? p = some f) :
    (∃ b size, loadTexts t now options p texts book = .ok b ∧ b.status = .blocked size) ↔
      options.Blocks texts := by
  constructor
  · rintro ⟨b, size, hb, hstatus⟩
    by_contra hblocks
    rw [loadTexts_of_not_blocks hfile hblocks] at hb
    cases hread : readDocument t (textsPath p) Texts.ofText? with
    | error failure =>
        rw [hread] at hb
        cases hb
    | ok read =>
        rw [hread] at hb
        cases hb
        revert hstatus
        cases isOutdated options now f.modified texts.modified <;> simp
  · intro hblocks
    exact ⟨_, _, loadTexts_of_blocks hblocks, rfl⟩

/-- Whatever its texts are, a book that is loaded is otherwise what its own file holds. -/
theorem rest_of_loadBook (hfile : t.file? p = some f)
    (hbook : Book.ofBytes? f.bytes = some book) {b : Book}
    (h : loadBook t now options p = .ok b) :
    b = { book with texts := b.texts, status := b.status } ∧
      (b.status = .missing ∨ (∃ size, b.status = .blocked size) → b.texts.entries = []) := by
  rw [loadBook_eq hfile hbook] at h
  cases htexts : t.file? (textsPath p) with
  | none =>
      rw [htexts] at h
      cases h
      refine ⟨rfl, ?_⟩
      unfold Book.hasTexts Dictionary.isEmpty
      cases book.texts.entries <;> simp
  | some texts =>
      rw [htexts] at h
      by_cases hblocks : options.Blocks texts
      · simp only [loadTexts_of_blocks hblocks] at h
        cases h
        exact ⟨rfl, fun _ => rfl⟩
      · simp only [loadTexts_of_not_blocks hfile hblocks] at h
        cases hread : readDocument t (textsPath p) Texts.ofText? with
        | error failure =>
            rw [hread] at h
            cases h
        | ok read =>
            rw [hread] at h
            cases h
            refine ⟨rfl, ?_⟩
            cases isOutdated options now f.modified texts.modified <;> simp

/-- Without texts, an item has one record that holds none. -/
theorem Book.records_of_texts_eq_nil {b : Book} (h : b.texts.entries = []) {id : String}
    {m : Metadata} (hitem : b.items.find? id = some m) :
    b.records id = [{ id, metadata := m }] := by
  have hsegments : b.segments id = [] := by
    rw [segments, Dictionary.find?, h]
    rfl
  rw [records_of_find?_eq_some hitem, if_pos hsegments]

/-- What becomes of a book that can be read. Without a file of texts its own texts stay, and they
are missing if there are none. A file that is too large blocks them, whatever it holds. All other
files give their texts in place of those of the book, out of date or current. Texts that cannot be
decoded corrupt the book exactly if their bytes are a text; otherwise they are a fault of the file.
Nothing else in the book changes, and missing or blocked texts leave each item one record. -/
theorem loadBook_classified (hfile : t.file? p = some f)
    (hbook : Book.ofBytes? f.bytes = some book) (now : Time) (options : LoadOptions) :
    (t.file? (textsPath p) = none → loadBook t now options p =
      .ok { book with status := if book.texts.isEmpty then .missing else .current }) ∧
    (∀ texts, t.file? (textsPath p) = some texts → options.Blocks texts →
      loadBook t now options p =
        .ok { book with texts := .empty, status := .blocked texts.bytes.size }) ∧
    (∀ texts, t.file? (textsPath p) = some texts → ¬options.Blocks texts →
      (∀ read, Texts.ofBytes? texts.bytes = some read → ∃ status,
        loadBook t now options p = .ok { book with texts := read, status } ∧
        (status = .outdated ∧ options.OutOfDate now f.modified texts.modified ∨
          status = .current ∧ ¬options.OutOfDate now f.modified texts.modified)) ∧
      (Texts.ofBytes? texts.bytes = none →
        (loadBook t now options p = .error (.corruptedBook (textsPath p).text) ↔
          texts.bytes.IsValidUTF8) ∧
        (loadBook t now options p = .error (.file .notText) ↔ ¬texts.bytes.IsValidUTF8))) ∧
    ∀ b, loadBook t now options p = .ok b →
      (b.id = book.id ∧ b.name = book.name ∧ b.hasNoTree = book.hasNoTree ∧
        b.items = book.items ∧ b.contents = book.contents) ∧
      (b.status = .missing ∨ (∃ size, b.status = .blocked size) →
        ∀ id m, b.items.find? id = some m → ∃ r, b.records id = [r] ∧ r.id = id ∧
          r.metadata = some m ∧ r.file = "" ∧ r.content = "") := by
  refine ⟨?_, ?_, ?_, ?_⟩
  · intro hnone
    rw [loadBook_eq hfile hbook, hnone]
    unfold Book.hasTexts
    cases book.texts.isEmpty <;> rfl
  · intro texts htexts hblocks
    rw [loadBook_eq hfile hbook, htexts]
    exact loadTexts_of_blocks hblocks
  · intro texts htexts hblocks
    rw [loadBook_eq hfile hbook, htexts]
    constructor
    · intro read hread
      exact loadTexts_of_read hfile htexts hblocks hread
    · intro hnone
      simp only [loadTexts_of_not_blocks hfile hblocks, readDocument_eq_error htexts hnone]
      by_cases hvalid : texts.bytes.IsValidUTF8
      · simp [hvalid, Except.map]
      · simp [hvalid, Except.map]
  · intro b hb
    obtain ⟨hrest, hempty⟩ := rest_of_loadBook hfile hbook hb
    constructor
    · rw [hrest]
      exact ⟨rfl, rfl, rfl, rfl, rfl⟩
    · intro hstatus id m hitem
      exact ⟨_, Book.records_of_texts_eq_nil (hempty hstatus) hitem, rfl, rfl, rfl, rfl⟩

/-- A book with a text of its own, next to a file of two bytes that are no text. -/
theorem loadBook_classified_noText :
    let text := "\x7b\"id\":\"a\",\"meta\":\x7b\"i\":\x7b\x7d\x7d," ++
      "\"fulltext\":\x7b\"i\":\x7b\"\":\x7b\"content\":\"x\"\x7d\x7d\x7d\x7d"
    let book : File := ⟨text.toUTF8, { nanos := 1 }⟩
    let texts : File := ⟨⟨#[255, 255]⟩, { nanos := 0 }⟩
    let t : Tree := { nodes := [(["a.json"], .file book), (["a.fulltext.json"], .file texts)] }
    let now : Time := { nanos := 2 }
    (∃ b, loadBook t now { sizeLimit := some 1 } ⟨"/a.json"⟩ = .ok b ∧ b.status = .blocked 2 ∧
      ∃ r, b.records "i" = [r] ∧ r.file = "" ∧ r.content = "") ∧
    loadBook t now { sizeLimit := some 2 } ⟨"/a.json"⟩ = .error (.file .notText) := by
  intro text book texts t now
  have hbook : (Book.ofBytes? book.bytes).any (fun b => (b.items.find? "i").isSome) = true := by
    decide +kernel
  obtain ⟨b, hb, hitem⟩ := (Option.any_eq_true _ _).mp hbook
  obtain ⟨m, hm⟩ := Option.isSome_iff_exists.mp hitem
  have hfile : t.file? ⟨"/a.json"⟩ = some book := rfl
  have htexts : t.file? (textsPath ⟨"/a.json"⟩) = some texts := rfl
  obtain ⟨-, hblocked, -, hrest⟩ := loadBook_classified hfile hb now { sizeLimit := some 1 }
  obtain ⟨-, -, hread, -⟩ := loadBook_classified hfile hb now { sizeLimit := some 2 }
  have hload := hblocked texts htexts ⟨1, rfl, by decide⟩
  obtain ⟨-, hrecords⟩ := hrest _ hload
  obtain ⟨r, hr, -, -, hempty, hcontent⟩ := hrecords (.inr ⟨_, rfl⟩) "i" m hm
  refine ⟨⟨_, hload, rfl, r, hr, hempty, hcontent⟩, ?_⟩
  have hnotBlocked : ¬LoadOptions.Blocks { sizeLimit := some 2 } texts := by
    rintro ⟨limit, hlimit, hlt⟩
    cases hlimit
    exact absurd hlt (by decide)
  obtain ⟨-, hfails⟩ := hread texts htexts hnotBlocked
  exact (hfails (by decide)).2.mpr (by decide)

/-- A file of texts that cannot be decoded does not always corrupt the book. -/
theorem loadBook_not_corruptedBook :
    let now : Time := { nanos := 0 }
    let t : Tree := { nodes := [(["a.json"], .file ⟨"\x7b\x7d".toUTF8, now⟩),
      (["a.fulltext.json"], .file ⟨⟨#[255]⟩, now⟩)] }
    (Book.ofBytes? "\x7b\x7d".toUTF8).isSome = true ∧ Texts.ofBytes? ⟨#[255]⟩ = none ∧
      loadBook t now {} ⟨"/a.json"⟩ ≠ .error (.corruptedBook (textsPath ⟨"/a.json"⟩).text) := by
  intro now t
  have hload : (loadBook t now {} ⟨"/a.json"⟩).map (·.id) = .error (.file .notText) := by
    decide +kernel
  refine ⟨by decide +kernel, by decide, ?_⟩
  intro hcorrupted
  rw [hcorrupted] at hload
  cases hload

end Load

end ArchiveSearch
