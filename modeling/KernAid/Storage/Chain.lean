import KernAid.Storage.SecureJournal

/-! What the scan of a journal accepts, and that an append's check of the last row agrees with it. -/

set_option autoImplicit false

namespace KernAid.Storage

open CrashLogic Encoding

def lastHash (previous : Bytes32) (es : List JournalEntry) : Bytes32 :=
  (es.getLast?.map JournalEntry.entryHash).getD previous

def ciphertextTotal (es : List JournalEntry) : Nat := (es.map fun e => e.event.length + aeadTagBytes).sum

def plaintextTotal (es : List JournalEntry) : Nat := (es.map fun e => e.event.length).sum

def prefixHash (es : List JournalEntry) (k : Nat) : Option Bytes32 :=
  if k = 0 then some zero32 else es[k - 1]?.map JournalEntry.entryHash

def summary (anchorSequence : Nat) (mode : ScanMode) (es : List JournalEntry) : ChainScan where
  head := (es.length,lastHash zero32 es)
  anchorPrefixHash := prefixHash es anchorSequence
  ciphertextBytes := ciphertextTotal es
  plaintextBytes := plaintextTotal es
  entries := match mode with
    | .none => []
    | .first => es.take 1
    | .allBounded => es

def ChainScan.push (anchorSequence : Nat) (mode : ScanMode) (scan : ChainScan) (e : JournalEntry) :
    ChainScan where
  head := (scan.head.1 + 1,e.entryHash)
  anchorPrefixHash :=
    if scan.head.1 + 1 = anchorSequence then some e.entryHash else scan.anchorPrefixHash
  ciphertextBytes := scan.ciphertextBytes + (e.event.length + aeadTagBytes)
  plaintextBytes := scan.plaintextBytes + e.event.length
  entries :=
    if mode = .allBounded ∨ mode = .first ∧ scan.head.1 + 1 = 1 then scan.entries ++ [e] else scan.entries

structure Within (mode : ScanMode) (limits : Option JournalReplayLimits) (scan : ChainScan) : Prop where
  count : scan.head.1 ≤ maxJournalEntries
  ciphertext : scan.ciphertextBytes ≤ maxJournalCiphertextBytes
  replayed : ∀ l ∈ limits, scan.head.1 ≤ l.maxSequence ∧ scan.plaintextBytes ≤ l.maxPlaintextBytes
  returned : mode = .allBounded →
    scan.head.1 ≤ maxReturnedEntries ∧ scan.plaintextBytes ≤ maxReturnedPlaintextBytes

section Entries

variable {anchorSequence : Nat} {mode : ScanMode} {limits : Option JournalReplayLimits}
    {previous : Bytes32}
  {row : Row} {record : Record} {e : JournalEntry} {es es' : List JournalEntry}

theorem toArray_eq_some {k : Nat} {bytes : List UInt8} {v : Vector UInt8 k} :
    toArray k bytes = some v ↔ bytes = v.toList := by
  rw [toArray]
  split_ifs with h
  · obtain ⟨⟨l⟩,hl⟩ := v
    simp [Vector.toList]
  · simp only [false_iff]
    rintro rfl
    exact h (by simp)

theorem Row.record_eq_ok : row.record = .ok record ↔
    (aeadTagBytes ≤ row.ciphertext.length ∧ row.ciphertext.length ≤ maxEventBytes + aeadTagBytes) ∧
      toArray 24 row.nonce = some record.nonce ∧ toArray 32 row.previousHash = some record.previousHash ∧
      toArray 32 row.entryHash = some record.entryHash ∧ record.ciphertext = row.ciphertext := by
  obtain ⟨nonce,ciphertext,previousHash,entryHash⟩ := record
  simp only [Row.record, require_bind_eq_ok, okOr_bind_eq_ok, pure_eq_ok_iff, Record.mk.injEq]
  constructor
  · rintro ⟨hsize,_,hnonce,_,hprevious,_,hhash,rfl,hciphertext,rfl,rfl⟩
    exact ⟨hsize,hnonce,hprevious,hhash,hciphertext.symm⟩
  · rintro ⟨hsize,hnonce,hprevious,hhash,hciphertext⟩
    exact ⟨hsize,nonce,hnonce,previousHash,hprevious,entryHash,hhash,rfl,hciphertext.symm,rfl,rfl⟩

theorem lastHash_cons : lastHash previous (e :: es) = lastHash e.entryHash es := by
  cases es <;> simp [lastHash, List.getLast?_cons]

theorem lastHash_append : lastHash previous (es ++ [e]) = e.entryHash := by simp [lastHash]

theorem prefixHash_append : prefixHash (es ++ [e]) anchorSequence =
    if es.length + 1 = anchorSequence then some e.entryHash else prefixHash es anchorSequence := by
  by_cases h : es.length + 1 = anchorSequence
  · simp [prefixHash, ← h]
  · rw [if_neg h, prefixHash, prefixHash]
    split_ifs with hzero
    · rfl
    · by_cases hlt : anchorSequence - 1 < es.length
      · rw [List.getElem?_append_left hlt]
      · rw [List.getElem?_eq_none (by simp; omega), List.getElem?_eq_none (by omega)]

theorem summary_nil : summary anchorSequence mode [] = scanStart anchorSequence := by
  cases mode <;> simp [summary, scanStart, lastHash, prefixHash, ciphertextTotal, plaintextTotal]

theorem push_summary : (summary anchorSequence mode es).push anchorSequence mode e =
    summary anchorSequence mode (es ++ [e]) := by
  have hentries : ((summary anchorSequence mode es).push anchorSequence mode e).entries =
      (summary anchorSequence mode (es ++ [e])).entries := by
    cases mode with
    | none => simp [ChainScan.push, summary]
    | allBounded => simp [ChainScan.push, summary]
    | first => cases es <;> simp [ChainScan.push, summary]
  change ChainScan.mk _ _ _ _ ((summary anchorSequence mode es).push anchorSequence mode e).entries = _
  rw [hentries]
  simp [summary, lastHash_append, prefixHash_append, ciphertextTotal, plaintextTotal]

theorem Within.start : Within mode limits (summary anchorSequence mode []) where
  count := by simp [summary]
  ciphertext := by simp [summary, ciphertextTotal]
  replayed := by simp [summary, plaintextTotal]
  returned := by simp [summary, plaintextTotal]

theorem Within.of_append (h : Within mode limits (summary anchorSequence mode (es ++ es'))) :
    Within mode limits (summary anchorSequence mode es) := by
  have hlength : es.length ≤ (es ++ es').length := by simp
  have hciphertext : ciphertextTotal es ≤ ciphertextTotal (es ++ es') := by simp [ciphertextTotal]
  have hplaintext : plaintextTotal es ≤ plaintextTotal (es ++ es') := by simp [plaintextTotal]
  exact {
    count := hlength.trans h.count
    ciphertext := hciphertext.trans h.ciphertext
    replayed := fun l hl => ⟨hlength.trans (h.replayed l hl).1,hplaintext.trans (h.replayed l hl).2⟩
    returned := fun hmode => ⟨hlength.trans (h.returned hmode).1,hplaintext.trans (h.returned hmode).2⟩ }

end Entries

variable [Sha256Hasher] {cipher : Cipher} {journalId : JournalId} {anchorSequence n : Nat}
  {mode : ScanMode} {limits : Option JournalReplayLimits} {previous : Bytes32} {row : Row}
  {rows : List Row} {e : JournalEntry} {es es' : List JournalEntry} {scan scan' : ChainScan}

/-- The row after the first `n`, whose last hash is `previous`, holds the entry. -/
def Row.Opens (cipher : Cipher) (journalId : JournalId) (n : Nat) (previous : Bytes32) (row : Row)
    (e : JournalEntry) : Prop :=
  row.sequence = (n + 1 : Nat) ∧ ∃ record, row.record = .ok record ∧ record.previousHash = previous ∧
    record.authenticate cipher journalId (n + 1) = .ok e.event ∧
    e.event.length + aeadTagBytes = row.ciphertext.length ∧ e = ⟨n + 1,e.event,previous,record.entryHash⟩

inductive Links (cipher : Cipher) (journalId : JournalId) :
    Nat → Bytes32 → List Row → List JournalEntry → Prop where
  | nil (n : Nat) (previous : Bytes32) : Links cipher journalId n previous [] []
  | cons {n : Nat} {previous : Bytes32} {row : Row} {rows : List Row} {e : JournalEntry}
      {es : List JournalEntry} : row.Opens cipher journalId n previous e →
      Links cipher journalId (n + 1) e.entryHash rows es →
      Links cipher journalId n previous (row :: rows) (e :: es)

theorem scanRow_eq_ok : scanRow cipher journalId anchorSequence mode limits scan row = .ok scan' ↔
    ∃ e, row.Opens cipher journalId scan.head.1 scan.head.2 e ∧
      scan' = scan.push anchorSequence mode e ∧ Within mode limits scan' := by
  have hbind : ∀ {α : Type} {x : Except JournalError α} {f : α → Except JournalError ChainScan},
      (x >>= f) = .ok scan' ↔ ∃ a, x = .ok a ∧ f a = .ok scan' := bind_ok_iff
  simp only [scanRow, require_bind_eq_ok]
  constructor
  · rintro ⟨hcount,hlimit,hsequence,h⟩
    obtain ⟨record,hrecord,h⟩ := hbind.mp h
    simp only [require_bind_eq_ok] at h
    obtain ⟨hciphertext,hplaintext,hprevious,h⟩ := h
    obtain ⟨event,hevent,h⟩ := hbind.mp h
    simp only [require_bind_eq_ok, pure_eq_ok_iff] at h
    obtain ⟨hlength,hreturned,rfl⟩ := h
    obtain ⟨hsize,-,-,-,heq⟩ := Row.record_eq_ok.mp hrecord
    have hfull : event.length + aeadTagBytes = row.ciphertext.length := by rw [hlength, heq]; omega
    refine ⟨⟨_,event,scan.head.2,record.entryHash⟩,
      ⟨hsequence,record,hrecord,hprevious,hevent,hfull,rfl⟩,?_,?_⟩
    · rw [ChainScan.push, hfull, heq, hprevious, ← heq, ← hlength]
    · exact ⟨hcount,hciphertext,fun l hl => ⟨hlimit l hl,hplaintext l hl⟩,hreturned⟩
  · rintro ⟨e,⟨hsequence,record,hrecord,hprevious,hevent,hfull,he⟩,rfl,hwithin⟩
    obtain ⟨hsize,-,-,-,heq⟩ := Row.record_eq_ok.mp hrecord
    have hlength : e.event.length = record.ciphertext.length - aeadTagBytes := by rw [heq]; omega
    have hfull' : record.ciphertext.length = e.event.length + aeadTagBytes := by rw [heq, hfull]
    refine ⟨hwithin.count,fun l hl => (hwithin.replayed l hl).1,hsequence,hbind.mpr ⟨record,hrecord,?_⟩⟩
    rw [← hlength, hfull']
    simp only [require_bind_eq_ok]
    refine ⟨hwithin.ciphertext,fun l hl => (hwithin.replayed l hl).2,hprevious,
      hbind.mpr ⟨e.event,hevent,?_⟩⟩
    simp only [require_bind_eq_ok, pure_eq_ok_iff]
    refine ⟨trivial,hwithin.returned,?_⟩
    have hhash : e.entryHash = record.entryHash := by rw [he]
    rw [ChainScan.push, hhash, hprevious, ← he]

theorem scanRows_eq_ok (hstart : Within mode limits (summary anchorSequence mode es)) :
    rows.foldlM (scanRow cipher journalId anchorSequence mode limits) (summary anchorSequence mode es) =
        .ok scan ↔
      ∃ es', Links cipher journalId es.length (lastHash zero32 es) rows es' ∧
        scan = summary anchorSequence mode (es ++ es') ∧ Within mode limits scan := by
  induction rows generalizing es scan with
  | nil =>
    simp only [List.foldlM_nil, pure_eq_ok_iff]
    constructor
    · rintro rfl
      exact ⟨[],.nil _ _,by simp,hstart⟩
    · rintro ⟨es',hlinks,hscan,-⟩
      cases hlinks
      simpa using hscan.symm
  | cons row rows ih =>
    rw [List.foldlM_cons, bind_ok_iff]
    constructor
    · rintro ⟨next,hrow,hrest⟩
      obtain ⟨e,hopens,rfl,hwithin⟩ := scanRow_eq_ok.mp hrow
      rw [push_summary] at hwithin hrest
      obtain ⟨es',hlinks,rfl,hend⟩ := (ih hwithin).mp hrest
      rw [List.length_append, lastHash_append] at hlinks
      exact ⟨e :: es',.cons hopens hlinks,by simp,hend⟩
    · rintro ⟨es',hlinks,rfl,hend⟩
      cases hlinks with
      | @cons _ _ _ _ e es' hopens hlinks =>
        rw [List.append_cons] at hend ⊢
        refine ⟨_,scanRow_eq_ok.mpr ⟨e,hopens,rfl,?_⟩,?_⟩
        · rw [push_summary]
          exact hend.of_append
        · rw [push_summary, ih hend.of_append]
          refine ⟨es',?_,rfl,hend⟩
          rw [List.length_append, lastHash_append]
          exact hlinks

theorem scanChain_eq_ok : scanChain cipher journalId anchorSequence mode limits rows = .ok scan ↔
    ∃ es, Links cipher journalId 0 zero32 rows es ∧ scan = summary anchorSequence mode es ∧
      Within mode limits scan := by
  rw [scanChain, ← @summary_nil anchorSequence mode, scanRows_eq_ok Within.start]
  rfl

theorem Row.Opens.unique (h : row.Opens cipher journalId n previous e) {e' : JournalEntry}
    (h' : row.Opens cipher journalId n previous e') : e = e' := by
  obtain ⟨-,record,hrecord,-,hevent,-,he⟩ := h
  obtain ⟨-,record',hrecord',-,hevent',-,he'⟩ := h'
  obtain rfl : record = record' := Except.ok.inj (hrecord.symm.trans hrecord')
  rw [he, he', Except.ok.inj (hevent.symm.trans hevent')]

theorem Links.unique (h : Links cipher journalId n previous rows es)
    (h' : Links cipher journalId n previous rows es') : es = es' := by
  induction h generalizing es' with
  | nil => cases h'; rfl
  | cons hopens _ ih =>
    cases h' with
    | cons hopens' hlinks' =>
      obtain rfl := hopens.unique hopens'
      rw [ih hlinks']

theorem links_append_row : Links cipher journalId n previous (rows ++ [row]) es ↔
    ∃ init e, es = init ++ [e] ∧ Links cipher journalId n previous rows init ∧
      row.Opens cipher journalId (n + init.length) (lastHash previous init) e := by
  induction rows generalizing n previous es with
  | nil =>
    constructor
    · intro h
      cases h with
      | @cons _ _ _ _ e _ hopens hlinks =>
        cases hlinks
        exact ⟨[],e,rfl,.nil _ _,hopens⟩
    · rintro ⟨init,e,rfl,hlinks,hopens⟩
      cases hlinks
      exact .cons hopens (.nil _ _)
  | cons first rows ih =>
    constructor
    · intro h
      cases h with
      | @cons _ _ _ _ f _ hopens hlinks =>
        obtain ⟨init,e,rfl,hinit,hrow⟩ := ih.mp hlinks
        refine ⟨f :: init,e,rfl,.cons hopens hinit,?_⟩
        rw [lastHash_cons, List.length_cons, show n + (init.length + 1) = n + 1 + init.length by omega]
        exact hrow
    · rintro ⟨init,e,rfl,hlinks,hrow⟩
      cases hlinks with
      | @cons _ _ _ _ f init hopens hinit =>
        rw [lastHash_cons, List.length_cons,
          show n + (init.length + 1) = n + 1 + init.length by omega] at hrow
        exact .cons hopens (ih.mpr ⟨init,e,rfl,hinit,hrow⟩)

theorem Links.length_eq (h : Links cipher journalId n previous rows es) : rows.length = es.length := by
  induction h with
  | nil => rfl
  | cons _ _ ih => rw [List.length_cons, List.length_cons, ih]

theorem Links.sequences (h : Links cipher journalId n previous rows es) :
    es.map JournalEntry.sequence = List.range' (n + 1) es.length := by
  induction h with
  | nil => rfl
  | @cons n _ _ _ e es hopens _ ih =>
    obtain ⟨-,record,-,-,-,-,he⟩ := hopens
    have hsequence : e.sequence = n + 1 := by rw [he]
    rw [List.map_cons, List.length_cons, List.range'_succ, hsequence, ih]

theorem Links.sequence_mem (h : Links cipher journalId n previous rows es)
    {row : Row} (hrow : row ∈ rows) : n < row.sequence ∧ row.sequence ≤ (n + rows.length : Nat) := by
  induction h with
  | nil => cases hrow
  | cons hopens _ ih =>
    rw [List.length_cons]
    rcases List.mem_cons.mp hrow with rfl | htail
    · have hsequence := hopens.1
      omega
    · have hrest := ih htail
      omega

theorem Links.last_row (h : Links cipher journalId 0 zero32 rows es) (hne : es ≠ []) :
    (rows.map Row.sequence).min? = some 1 ∧ (rows.map Row.sequence).max? = some (rows.length : Int) ∧
      ∃ row record event, rows.find? (fun r : Row => r.sequence = (rows.length : Int)) = some row ∧
        row.record = .ok record ∧ record.entryHash = lastHash zero32 es ∧
        record.authenticate cipher journalId rows.length = .ok event := by
  rcases List.eq_nil_or_concat rows with rfl | ⟨init,row,rfl⟩
  · cases h
    exact absurd rfl hne
  · rw [List.concat_eq_append] at h ⊢
    have hlength := h.length_eq
    have hmem := fun (r : Row) (hr : r ∈ init ++ [row]) => h.sequence_mem hr
    obtain ⟨before,e,rfl,hinit,hsequence,record,hrecord,-,hevent,-,he⟩ := links_append_row.mp h
    rw [Nat.zero_add, ← hinit.length_eq] at hsequence hevent
    have hnone : init.find? (fun r : Row => r.sequence = ((init ++ [row]).length : Int)) = none := by
      rw [List.find?_eq_none]
      intro r hr
      have hr' := (hinit.sequence_mem hr).2
      simp at hr' ⊢
      omega
    have hfirst : (1 : Int) ∈ (init ++ [row]).map Row.sequence := by
      cases init with
      | nil => simp [hsequence]
      | cons first rest =>
        cases hinit with
        | cons hopens _ => simp [hopens.1]
    refine ⟨?_,?_,row,record,e.event,?_,hrecord,?_,?_⟩
    · rw [List.min?_eq_some_iff]
      refine ⟨hfirst,?_⟩
      intro k hk
      obtain ⟨r,hr,rfl⟩ := List.mem_map.mp hk
      have hr' := (hmem r hr).1
      omega
    · rw [List.max?_eq_some_iff]
      refine ⟨by simp [hsequence],?_⟩
      intro k hk
      obtain ⟨r,hr,rfl⟩ := List.mem_map.mp hk
      have hr' := (hmem r hr).2
      simpa using hr'
    · rw [List.find?_append, hnone, Option.none_or, List.find?_cons_of_pos]
      simpa using hsequence
    · rw [lastHash_append, he]
    · simpa using hevent

theorem validateExpectedHead_eq_ok {disk : Disk} {expected : JournalAnchor}
    (hlinks : Links cipher journalId 0 zero32 disk.rows es) (hcount : es.length ≤ maxJournalEntries) :
    validateExpectedHead disk cipher journalId expected = .ok () ↔
      disk.journalId = journalId ∧ expected = ⟨journalId,es.length,lastHash zero32 es⟩ := by
  have hlength := hlinks.length_eq
  have hhead : actualHead disk journalId = .ok ⟨journalId,es.length,lastHash zero32 es⟩ := by
    rw [actualHead, require_bind_eq_ok]
    refine ⟨hlength ▸ hcount,?_⟩
    cases es with
    | nil =>
      rw [List.length_eq_zero_iff.mp hlength]
      rfl
    | cons e es =>
      obtain ⟨hmin,hmax,row,record,event,hfind,hrecord,hhash,hevent⟩ := hlinks.last_row (by simp)
      have hbytes := (Row.record_eq_ok.mp hrecord).2.2.2.1
      simp only [hmin, hmax, require_bind_eq_ok, okOr_bind_eq_ok, pure_eq_ok_iff]
      exact ⟨⟨trivial,trivial⟩,row,hfind,record.entryHash,hbytes,by rw [hhash, hlength]⟩
  simp only [validateExpectedHead, require_bind_eq_ok, hhead, ok_bind]
  constructor
  · rintro ⟨⟨-,hid⟩,-,rfl,-⟩
    exact ⟨hid,rfl⟩
  · rintro ⟨hid,rfl⟩
    refine ⟨⟨rfl,hid⟩,.inl rfl,rfl,?_⟩
    cases es with
    | nil => rfl
    | cons e es =>
      obtain ⟨-,-,row,record,event,hfind,hrecord,hhash,hevent⟩ := hlinks.last_row (by simp)
      rw [if_neg (by simp), ← hlength, okOr_bind_eq_ok]
      refine ⟨row,hfind,?_⟩
      rw [hrecord, ok_bind, require_bind_eq_ok, hevent]
      exact ⟨hhash,rfl⟩

end KernAid.Storage
