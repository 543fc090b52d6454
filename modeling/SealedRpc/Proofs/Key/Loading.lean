import SealedRpc.Key.Load
import SealedRpc.Proofs.Except
import SealedRpc.Proofs.Text.Utf8

/-!
# Loading a key of either kind

The loader of either kind looks for two words in the whole file, and lets the loader of private keys
read the file if they are there and the loader of public keys if they are not. A private key is only
found in a block whose label has the words in it, and a label is a part of the file. So a private
key is never missed, whatever an encrypted one may be opened with.

A public key is missed if the words are there for another reason, say in a line above its block,
or in the label of a block that follows it: then the file is read for a private key only.

## Main results

* `Pem.infix_of_mem_blocks?`: the octets of a label are a part of the file.
* `Opener.hasPrivateWords_of_loadPrivate`: where a private key is loaded, the words are.
* `Opener.loadAny_accepts`: what the loader of either kind comes to, in terms of the other two.
* `loadAny_commented`: a public key below a comment with the words.
-/

namespace SealedRpc

namespace Pem

/-! ### Parts of a file -/

/-- All but the last of the octets that were passed begin what was searched. -/
theorem prefix_of_passed (count : Nat) (before bytes : Bytes) :
    (before.drop count).reverse <+: before.reverse ++ bytes :=
  (List.reverse_prefix.mpr (List.drop_suffix count before)).trans (List.prefix_append _ _)

/-- What a search gives back as standing before a mark begins what was searched, and what follows
the mark ends it. -/
theorem prefix_and_suffix_of_search {mark missing before bytes pre post : Bytes}
    (h : search mark missing before bytes = some (pre, post)) :
    pre <+: before.reverse ++ bytes ∧ post <:+ bytes := by
  induction bytes generalizing missing before with
  | nil =>
      rw [search] at h
      split at h
      · cases h
        exact ⟨prefix_of_passed _ before [], List.suffix_rfl⟩
      · cases h
  | cons b rest ih =>
      -- Whether the octet is the next one of the mark or not, it is put before the others.
      have hmore {missing : Bytes} (h : search mark missing (b :: before) rest = some (pre, post)) :
          pre <+: before.reverse ++ b :: rest ∧ post <:+ b :: rest := by
        obtain ⟨hpre, hpost⟩ := ih h
        rw [List.reverse_cons, List.append_assoc, List.singleton_append] at hpre
        exact ⟨hpre, hpost.trans (List.suffix_cons b rest)⟩
      cases missing with
      | nil =>
          cases h
          exact ⟨prefix_of_passed _ before (b :: rest), List.suffix_rfl⟩
      | cons m more =>
          rw [search] at h
          split at h
          · exact hmore h
          · exact hmore h

/-- What a cut gives back are a beginning and an end of what was cut. -/
theorem prefix_and_suffix_of_cutAt? {mark : String} {bytes pre post : Bytes}
    (h : cutAt? mark bytes = some (pre, post)) : pre <+: bytes ∧ post <:+ bytes :=
  prefix_and_suffix_of_search h

/-- The label of the first block is a part of the file, and what follows the block ends it. -/
theorem infix_and_suffix_of_rawBlock? {bytes rest : Bytes} {raw : RawBlock}
    (h : rawBlock? bytes = some (raw, rest)) : raw.opening <:+: bytes ∧ rest <:+ bytes := by
  simp only [rawBlock?, bind, Option.bind_eq_some_iff, Prod.exists, Option.pure_def,
    Option.some.injEq, Prod.mk.injEq] at h
  obtain ⟨_, afterBegin, hbegin, opening, afterOpening, hopening, _, afterBody, hbody, _,
    afterClosing, hclosing, rfl, rfl⟩ := h
  have hbegin := (prefix_and_suffix_of_cutAt? hbegin).2
  have hopening := prefix_and_suffix_of_cutAt? hopening
  have hbody := (prefix_and_suffix_of_cutAt? hbody).2
  have hclosing := (prefix_and_suffix_of_cutAt? hclosing).2
  have hbodyBytes : afterBody <:+ bytes :=
    hbody.trans ((List.dropWhile_suffix _).trans (hopening.2.trans hbegin))
  exact ⟨hopening.1.isInfix.trans hbegin.isInfix,
    (List.dropWhile_suffix _).trans (hclosing.trans hbodyBytes)⟩

/-- The label of every block is a part of the file. -/
theorem infix_of_mem_rawBlocks {count : Nat} {bytes : Bytes} {raw : RawBlock}
    (h : raw ∈ rawBlocks count bytes) : raw.opening <:+: bytes := by
  induction count generalizing bytes with
  | zero => cases h
  | succ count ih =>
      rw [rawBlocks] at h
      split at h
      · rename_i first rest hfirst
        obtain ⟨hopening, hrest⟩ := infix_and_suffix_of_rawBlock? hfirst
        obtain rfl | hlater := List.mem_cons.mp h
        · exact hopening
        · exact (ih hlater).trans hrest.isInfix
      · cases h

/-- The label of a block is what its beginning says. -/
theorem decode?_of_readBlock? {raw : RawBlock} {block : Block} (h : readBlock? raw = some block) :
    Utf8.decode? raw.opening = some block.label := by
  simp only [readBlock?, bind, Option.bind_eq_some_iff] at h
  obtain ⟨opening, hopening, closing, -, h⟩ := h
  obtain ⟨_, -, headers, -, content, -, h⟩ := h
  split at h
  · cases h
  · cases h
    exact hopening

/-- A block without headers is read if its ends agree and its data can be read. -/
theorem readBlock?_of_plain {raw : RawBlock} {label : Text} {content : Bytes}
    (hlabel : Utf8.encode? label = some raw.opening) (hends : raw.closing = raw.opening)
    (hne : label ≠ []) (hbody : cutBody raw.body = ([], raw.body))
    (hcontent : Base64.decode? (raw.body.filter fun b => !isSpace b) = some content) :
    readBlock? raw = some ⟨label, [], content⟩ := by
  have hopening : Utf8.decode? raw.opening = some label := Utf8.decode?_encode? hlabel
  have hheaders : Utf8.decode? [] = some [] := Utf8.decode?_encode? rfl
  have hlines : (lines []).mapM header? = some [] := rfl
  have hagree : ¬ (label.isEmpty || decide (label ≠ label)) = true := by simpa using hne
  simp only [readBlock?, hends, hopening, hbody, hheaders, hlines, hcontent, bind,
    Option.bind_some, if_neg hagree, Option.pure_def]

/-- The first block is read by itself, whatever follows it. -/
theorem firstBlock?_of_rawBlock? {bytes rest : Bytes} {raw : RawBlock}
    (h : rawBlock? bytes = some (raw, rest)) : firstBlock? bytes = readBlock? raw := by
  rw [firstBlock?, h]
  rfl

/-- What comes out of a reading item by item comes from one of the items. -/
theorem exists_of_mem_mapM {α β : Type} {f : α → Option β} {items : List α} {results : List β}
    (h : items.mapM f = some results) {result : β} (hresult : result ∈ results) :
    ∃ item ∈ items, f item = some result := by
  induction items generalizing results with
  | nil =>
      cases h
      cases hresult
  | cons item items ih =>
      simp only [List.mapM_cons, bind, Option.bind_eq_some_iff, Option.pure_def,
        Option.some.injEq] at h
      obtain ⟨first, hfirst, later, hlater, rfl⟩ := h
      obtain rfl | hmem := List.mem_cons.mp hresult
      · exact ⟨item, List.mem_cons_self, hfirst⟩
      · obtain ⟨found, hfound, hf⟩ := ih hlater hmem
        exact ⟨found, List.mem_cons_of_mem item hfound, hf⟩

/-- The octets of the label of a block are a part of the file. -/
theorem infix_of_mem_blocks? {bytes octets : Bytes} {blocks : List Block} {block : Block}
    (hblocks : blocks? bytes = some blocks) (hblock : block ∈ blocks)
    (hlabel : Utf8.encode? block.label = some octets) : octets <:+: bytes := by
  obtain ⟨raw, hraw, hread⟩ := exists_of_mem_mapM hblocks hblock
  have hopening := Utf8.decode?_eq_some_iff.mp (decode?_of_readBlock? hread)
  obtain rfl : raw.opening = octets := Option.some.inj (hopening.symm.trans hlabel)
  exact infix_of_mem_rawBlocks hraw

end Pem

namespace Key

variable {opener : Opener} {files : Files} {path passphrase : Text} {content : Bytes} {key : Key}

/-- The words that every label of a private key has in it. -/
def privateWords : Bytes := Pem.ascii "PRIVATE KEY"

/-- Whether a file is there and has the words somewhere in it. -/
def HasPrivateWords (files : Files) (path : Text) : Prop :=
  ∃ content, files path = .ok content ∧ privateWords <:+: content

/-! ### The words -/

/-- The search for one byte string in another finds it exactly where it is a part. -/
theorem occursIn_iff {part bytes : Bytes} : occursIn part bytes = true ↔ part <:+: bytes := by
  induction bytes with
  | nil => rw [occursIn, List.isEmpty_iff, List.infix_nil]
  | cons b rest ih =>
      rw [occursIn, Bool.or_eq_true, ih, List.isPrefixOf_iff_prefix, List.infix_cons_iff]

/-- A file speaks of a private key exactly if the words are in it. -/
theorem mentionsPrivate_iff : mentionsPrivate content = true ↔ privateWords <:+: content :=
  occursIn_iff

/-- The labels of private keys have the words in them. -/
theorem infix_of_mem_privateLabels {label : Text} (h : label ∈ privateLabels) :
    ∃ octets, Utf8.encode? label = some octets ∧ privateWords <:+: octets := by
  have hall : ∀ label ∈ privateLabels,
      (Utf8.encode? label).any (occursIn privateWords) = true := by
    decide +kernel
  obtain ⟨octets, hencode, hoccurs⟩ := (Option.any_eq_true _ _).mp (hall label h)
  exact ⟨octets, hencode, occursIn_iff.mp hoccurs⟩

/-! ### The loaders -/

/-- A private key comes out of reading a file only if a block of the file has the label of one. -/
theorem Opener.exists_block_of_readPrivate
    (h : opener.readPrivate content passphrase = .ok key) :
    ∃ blocks, Pem.blocks? content = some blocks ∧
      (∃ block ∈ blocks, block.label ∈ privateLabels) ∧ ∃ k, key = .ofPrivate k := by
  simp only [Opener.readPrivate] at h
  cases hencode : Utf8.encode? passphrase with
  | none =>
      rw [hencode] at h
      cases h
  | some _ =>
      rw [hencode] at h
      obtain ⟨blocks, hblocks, h⟩ := Except.bind_eq_ok_iff.mp h
      obtain ⟨block, hblock, h⟩ := Except.bind_eq_ok_iff.mp h
      have hfind := readable_eq_ok_iff.mp hblock
      have hlabel : privateLabels.contains block.label = true :=
        List.find?_some (p := fun b : Pem.Block => privateLabels.contains b.label) hfind
      refine ⟨blocks, readable_eq_ok_iff.mp hblocks,
        ⟨block, List.mem_of_find?_eq_some hfind, List.contains_iff_mem.mp hlabel⟩, ?_⟩
      -- Opened or not, the block goes through the same check at the end.
      have haccept : ∃ material, acceptPrivate material = .ok key := by
        split at h
        · obtain ⟨material, -, h⟩ := Except.bind_eq_ok_iff.mp h
          exact ⟨material, h⟩
        · obtain ⟨_, -, h⟩ := Except.bind_eq_ok_iff.mp h
          obtain ⟨material, -, h⟩ := Except.bind_eq_ok_iff.mp h
          split at h
          · exact ⟨material, h⟩
          · cases h
      obtain ⟨material, haccept⟩ := haccept
      obtain ⟨k, -, -, hk⟩ := acceptPrivate_eq_ok_iff.mp haccept
      exact ⟨k, hk⟩

/-- Where a private key is loaded, the words are. -/
theorem Opener.hasPrivateWords_of_loadPrivate
    (h : opener.loadPrivate files path passphrase = .ok key) :
    HasPrivateWords files path ∧ ∃ k, key = .ofPrivate k := by
  obtain ⟨content, hcontent, h⟩ := Except.bind_eq_ok_iff.mp h
  obtain ⟨blocks, hblocks, ⟨block, hblock, hlabel⟩, hkey⟩ := Opener.exists_block_of_readPrivate h
  obtain ⟨octets, hencode, hwords⟩ := infix_of_mem_privateLabels hlabel
  have hoctets := Pem.infix_of_mem_blocks? hblocks hblock hencode
  exact ⟨⟨content, Except.mapError_eq_ok_iff.mp hcontent, hwords.trans hoctets⟩, hkey⟩

/-- A public key that is loaded holds public material only. -/
theorem exists_of_loadPublic (h : loadPublic files path = .ok key) : ∃ k, key = .ofPublic k := by
  obtain ⟨content, -, h⟩ := Except.bind_eq_ok_iff.mp h
  obtain ⟨block, -, h⟩ := Except.bind_eq_ok_iff.mp h
  obtain ⟨material, -, h⟩ := Except.bind_eq_ok_iff.mp h
  obtain ⟨k, -, -, hk⟩ := acceptPublic_eq_ok_iff.mp h
  exact ⟨k, hk⟩

/-- A public key is loaded from what is in the file. -/
theorem loadPublic_of_file (h : files path = .ok content) :
    loadPublic files path = readPublic content := by
  rw [loadPublic, h]
  rfl

/-- A private key is loaded from what is in the file. -/
theorem Opener.loadPrivate_of_file (h : files path = .ok content) :
    opener.loadPrivate files path passphrase = opener.readPrivate content passphrase := by
  rw [Opener.loadPrivate, h]
  rfl

/-- A public key is read from the first block. -/
theorem readPublic_of_firstBlock {block : Pem.Block} (h : Pem.firstBlock? content = some block) :
    readPublic content = (publicMaterial block).bind acceptPublic := by
  rw [readPublic, h]
  rfl

/-- Without a block that has the label of a private key no private key is read. -/
theorem Opener.readPrivate_of_no_block {octets : Bytes} {blocks : List Pem.Block}
    (hencode : Utf8.encode? passphrase = some octets) (hblocks : Pem.blocks? content = some blocks)
    (hnone : ∀ block ∈ blocks, block.label ∉ privateLabels) :
    opener.readPrivate content passphrase = .error .unreadable := by
  have hfind : blocks.find? (fun b => privateLabels.contains b.label) = Option.none :=
    List.find?_eq_none.mpr fun block hblock hlabel =>
      hnone block hblock (List.contains_iff_mem.mp hlabel)
  simp only [Opener.readPrivate, hencode, hblocks, hfind, readable, bind, Except.bind]

/-- A private key that is not encrypted is read without a passphrase, from the first block that has
the label of one. -/
theorem Opener.readPrivate_of_plain {blocks : List Pem.Block} {block : Pem.Block}
    {material : Material PrivateKey} (hblocks : Pem.blocks? content = some blocks)
    (hfind : blocks.find? (fun b => privateLabels.contains b.label) = some block)
    (hplain : isEncrypted block = false) (hheaders : checkHeaders block = .ok ())
    (hmaterial : privateMaterial block = .ok material) :
    opener.readPrivate content [] = acceptPrivate material := by
  have hencode : Utf8.encode? [] = some [] := rfl
  simp only [Opener.readPrivate, hencode, hblocks, hfind, hplain, hheaders, hmaterial, readable,
    bind, Except.bind]
  rfl

/-- With the words in the file, only the loader of private keys is asked. -/
theorem Opener.loadAny_of_words (h : HasPrivateWords files path) :
    opener.loadAny files path passphrase = opener.loadPrivate files path passphrase := by
  obtain ⟨content, hcontent, hwords⟩ := h
  rw [Opener.loadAny_eq hcontent, if_pos (mentionsPrivate_iff.mpr hwords)]

/-- Without the words, or without a file, only the loader of public keys is asked. -/
theorem Opener.loadAny_of_no_words (h : ¬ HasPrivateWords files path) :
    opener.loadAny files path passphrase = loadPublic files path := by
  cases hfile : files path with
  | error fault =>
      rw [Opener.loadAny, loadPublic, hfile]
      rfl
  | ok content =>
      have hwords : ¬ mentionsPrivate content = true :=
        fun hmentions => h ⟨content, hfile, mentionsPrivate_iff.mp hmentions⟩
      rw [Opener.loadAny_eq hfile, if_neg hwords]

/-- What comes out is the private key that is there, or else the public one if the words are not. -/
theorem Opener.loadAny_eq_ok_iff : opener.loadAny files path passphrase = .ok key ↔
    opener.loadPrivate files path passphrase = .ok key ∨
      loadPublic files path = .ok key ∧ ¬ HasPrivateWords files path := by
  by_cases hwords : HasPrivateWords files path
  · rw [Opener.loadAny_of_words hwords]
    exact ⟨.inl, fun h => h.elim id fun hpublic => absurd hwords hpublic.2⟩
  · rw [Opener.loadAny_of_no_words hwords]
    constructor
    · exact fun h => .inr ⟨h, hwords⟩
    · rintro (hprivate | ⟨hpublic, -⟩)
      · exact absurd (Opener.hasPrivateWords_of_loadPrivate hprivate).1 hwords
      · exact hpublic

/-- A file is refused as the loader refuses it that the words tell to read it. -/
theorem Opener.loadAny_eq_error_iff {fault : KeyFault} :
    opener.loadAny files path passphrase = .error fault ↔
      opener.loadPrivate files path passphrase = .error fault ∧ HasPrivateWords files path ∨
      loadPublic files path = .error fault ∧ ¬ HasPrivateWords files path := by
  by_cases hwords : HasPrivateWords files path
  · rw [Opener.loadAny_of_words hwords]
    simp [hwords]
  · rw [Opener.loadAny_of_no_words hwords]
    simp [hwords]

/-- **Loading a key of either kind.** Take any file, any passphrase and whatever may open encrypted
keys. A private key that the loader of private keys takes is what comes out, so private material
goes first, and the words are in its file. A public key that the other loader takes comes out if the
words are nowhere in the file. If they are, its file is refused exactly if the loader of private
keys refuses it, and for the same reason: the other loader is not asked.

Nothing else comes out, and nothing fails in another way. In particular, a file that both loaders
refuse is refused here too, with the fault of one of the two. -/
theorem Opener.loadAny_accepts (opener : Opener) (files : Files) (path passphrase : Text) :
    (∀ key, opener.loadPrivate files path passphrase = .ok key →
      (∃ k, key = .ofPrivate k) ∧ HasPrivateWords files path ∧
        opener.loadAny files path passphrase = .ok key) ∧
    (∀ key, loadPublic files path = .ok key →
      (∃ k, key = .ofPublic k) ∧
      (¬ HasPrivateWords files path → opener.loadAny files path passphrase = .ok key) ∧
      ∀ fault, opener.loadAny files path passphrase = .error fault ↔
        HasPrivateWords files path ∧ opener.loadPrivate files path passphrase = .error fault) ∧
    (∀ key, opener.loadAny files path passphrase = .ok key ↔
      opener.loadPrivate files path passphrase = .ok key ∨
      loadPublic files path = .ok key ∧ ¬ HasPrivateWords files path) ∧
    ∀ fault, opener.loadAny files path passphrase = .error fault ↔
      opener.loadPrivate files path passphrase = .error fault ∧ HasPrivateWords files path ∨
      loadPublic files path = .error fault ∧ ¬ HasPrivateWords files path := by
  refine ⟨fun key hprivate => ?_, fun key hpublic => ⟨exists_of_loadPublic hpublic, fun hnone => ?_,
    fun fault => ?_⟩, fun key => Opener.loadAny_eq_ok_iff, fun fault => Opener.loadAny_eq_error_iff⟩
  · obtain ⟨hwords, hkey⟩ := Opener.hasPrivateWords_of_loadPrivate hprivate
    exact ⟨hkey, hwords, Opener.loadAny_eq_ok_iff.mpr (.inl hprivate)⟩
  · exact Opener.loadAny_eq_ok_iff.mpr (.inr ⟨hpublic, hnone⟩)
  · rw [Opener.loadAny_eq_error_iff, hpublic]
    constructor
    · rintro (⟨hprivate, hwords⟩ | ⟨hfault, -⟩)
      · exact ⟨hwords, hprivate⟩
      · cases hfault
    · exact fun ⟨hwords, hprivate⟩ => .inl ⟨hprivate, hwords⟩

/-! ### A file that is refused -/

/-- A file with a public key below a line with the words. -/
def commentedFile : Bytes :=
  Pem.ascii ("# a PRIVATE KEY file\n-----BEGIN PUBLIC KEY-----\n" ++
    "MDwwDQYJKoZIhvcNAQEBBQADKwAwKAIhAL77ZIXnXqlbSTAvWeUxEUIJeDejLaf3\n" ++
    "B31fMqH9lIZxAgMBAAE=\n-----END PUBLIC KEY-----\n")

/-- The only block of the file, before it is read. -/
def commentedRawBlock : Pem.RawBlock where
  opening := Pem.ascii "PUBLIC KEY"
  closing := Pem.ascii "PUBLIC KEY"
  body := Pem.ascii ("MDwwDQYJKoZIhvcNAQEBBQADKwAwKAIhAL77ZIXnXqlbSTAvWeUxEUIJeDejLaf3\n" ++
    "B31fMqH9lIZxAgMBAAE=\n")

/-- The key in the file. -/
def commentedKey : PublicKey where
  modulus := 0xbefb6485e75ea95b49302f59e5311142097837a32da7f7077d5f32a1fd948671
  exponent := 0x10001

/-- The block as it is read: its data are the key in the structure for keys of every kind. -/
def commentedBlock : Pem.Block where
  label := publicLabel
  headers := []
  content := [0x30, 0x3C, 0x30, 0x0D, 0x06, 0x09, 0x2A, 0x86, 0x48, 0x86, 0xF7, 0x0D, 0x01, 0x01,
    0x01, 0x05, 0x00, 0x03, 0x2B, 0x00, 0x30, 0x28, 0x02, 0x21, 0x00] ++
    Bytes.ofNat 32 commentedKey.modulus ++ [0x02, 0x03, 0x01, 0x00, 0x01]

/-- The block is read. Strings become lists of characters first here and below, for they are slow to
take apart. -/
theorem readBlock?_commentedRawBlock :
    Pem.readBlock? commentedRawBlock = some commentedBlock := by
  have hbody : Pem.cutBody commentedRawBlock.body = ([], commentedRawBlock.body) := by
    simp only [commentedRawBlock, Pem.ascii, String.toList_append, String.reduceToList]
    decide +kernel
  have hcontent : Base64.decode? (commentedRawBlock.body.filter fun b => !Pem.isSpace b)
      = some commentedBlock.content := by
    simp only [commentedRawBlock, Pem.ascii, String.toList_append, String.reduceToList]
    decide +kernel
  exact Pem.readBlock?_of_plain (by decide +kernel) rfl (by decide +kernel) hbody hcontent

/-- The block is the only one in the file. -/
theorem blocks_commentedFile : Pem.rawBlock? commentedFile = some (commentedRawBlock, []) ∧
    Pem.blocks? commentedFile = some [commentedBlock] := by
  have hraw : Pem.rawBlock? commentedFile = some (commentedRawBlock, []) ∧
      Pem.rawBlocks commentedFile.length commentedFile = [commentedRawBlock] := by
    simp only [commentedFile, commentedRawBlock, Pem.ascii, String.toList_append,
      String.reduceToList]
    decide +kernel
  refine ⟨hraw.1, ?_⟩
  rw [Pem.blocks?, hraw.2, List.mapM_cons, readBlock?_commentedRawBlock]
  rfl

/-- The public key below the words is loaded as a public key. A file with it is refused as a private
key, and so it is refused as a key of either kind. -/
theorem loadAny_commented :
    loadPublic (fun _ => .ok commentedFile) [] = .ok (.ofPublic commentedKey) ∧
    loadPrivate (fun _ => .ok commentedFile) [] [] = .error .unreadable ∧
    loadAny (fun _ => .ok commentedFile) [] [] = .error .unreadable := by
  obtain ⟨hraw, hblocks⟩ := blocks_commentedFile
  have hpublic : readPublic commentedFile = .ok (.ofPublic commentedKey) := by
    have hfirst : Pem.firstBlock? commentedFile = some commentedBlock :=
      (Pem.firstBlock?_of_rawBlock? hraw).trans readBlock?_commentedRawBlock
    have hmaterial : publicMaterial commentedBlock = .ok (.rsa commentedKey) := rfl
    have haccept : acceptPublic (.rsa commentedKey) = .ok (.ofPublic commentedKey) :=
      acceptPublic_eq_ok_iff.mpr ⟨commentedKey, rfl, by decide +kernel, rfl⟩
    rw [readPublic_of_firstBlock hfirst, hmaterial]
    exact haccept
  have hprivate : loadPrivate (fun _ => .ok commentedFile) [] [] = .error .unreadable :=
    (Opener.loadPrivate_of_file rfl).trans
      (Opener.readPrivate_of_no_block rfl hblocks (by decide +kernel))
  have hmentions : mentionsPrivate commentedFile = true := by
    simp only [commentedFile, Pem.ascii, String.toList_append, String.reduceToList]
    decide +kernel
  have hwords : HasPrivateWords (fun _ => .ok commentedFile) [] :=
    ⟨commentedFile, rfl, mentionsPrivate_iff.mp hmentions⟩
  exact ⟨(loadPublic_of_file rfl).trans hpublic, hprivate,
    (Opener.loadAny_of_words hwords).trans hprivate⟩

end Key

end SealedRpc
