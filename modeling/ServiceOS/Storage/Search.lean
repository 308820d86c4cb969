import ServiceOS.Storage.Service

/-! # Searching

The name search and the content search of `index.rs`. -/

namespace ServiceOS.Storage

open ByteString Fallible Service StorageStatus

def searchRequestTag : Nat := 0x521

def searchReplyTag : Nat := 0x522

def grepRequestTag : Nat := 0x523

def grepReplyTag : Nat := 0x524

def indexTailMagic : UInt64 := (0x58444953 : UInt64) ||| ((3 : UInt64) <<< 32)

def nameTokenMax : Nat := 4

def tokenLenMax : Nat := 12

def queryTokenMax : Nat := 3

def queryTokenLenMax : Nat := 24

def grepFileBytesMax : Nat := 4096

def grepResultsMax : Nat := 16

def grepNeedleMax : Nat := 32

def grepChunkBytes : Nat := 512

def grepFlagTruncated : UInt64 := 1

def grepFlagOversizeSkipped : UInt64 := 2

/-! ## Ranking names -/

def splitName (path : Octets) : Octets := (path.splitOn slash).getLast?.getD []

def foldLower (byte : UInt8) : UInt8 := if 65 ≤ byte ∧ byte ≤ 90 then byte + 32 else byte

/-- Split bytes at separators into tokens in lower case, of which the first `count` are kept, each
cut off at `length` bytes. -/
def tokens (separator : UInt8 → Bool) (count length : Nat) (bytes : Octets) :
    List Octets :=
  (((bytes.splitOnP separator).filter fun token => !token.isEmpty).take count).map
    fun token => (token.take length).map foldLower

def nameSeparator (byte : UInt8) : Bool :=
  byte == 46 || byte == 45 || byte == 95 || byte == 32 || byte == 0

def tokenizeName (name : Octets) : List Octets :=
  tokens nameSeparator nameTokenMax tokenLenMax name

def containsSubslice (haystack needle : Octets) : Bool :=
  haystack.tails.any (needle.isPrefixOf ·)

/-- `CLASS_EXACT`, `CLASS_PREFIX`, `CLASS_SUBSTRING` or no match. -/
def tokenClass (token query : Octets) : Nat :=
  if token == query then 3
  else if query.isPrefixOf token then 2
  else if containsSubslice token query then 1
  else 0

def matchClass (name : Octets) (nameTokens : List Octets) (query : Octets) : Nat :=
  let lower := (name.take maxStoragePath).map foldLower
  let query := (query.take queryTokenLenMax).map foldLower
  nameTokens.foldl (fun best token => max best (tokenClass token query)) (tokenClass lower query)

def scoreName (name : Octets) (queries : List Octets) : Option Nat :=
  let classes := queries.map (matchClass name (tokenizeName name))
  if queries.isEmpty || classes.contains 0 then none else some (min classes.sum 255)

/-- Bring an element to its place among those before it, nearest first. -/
def sinkBack {α : Type} (swap : α → α → Bool) (current : α) : List α → List α
  | [] => [current]
  | previous :: rest =>
    if swap previous current then previous :: sinkBack swap current rest
    else current :: previous :: rest

def insertionSort {α : Type} (swap : α → α → Bool) (elements : List α) : List α :=
  (elements.foldl (fun sorted element => sinkBack swap element sorted) []).reverse

structure SearchBounds where
  minSize : Nat
  maxSize : Nat
  sinceTick : Nat
  now : Nat

def recentEnough (bounds : SearchBounds) (entry : IndexEntry) : Bool :=
  bounds.sinceTick == 0 ||
    (bounds.sinceTick ≤ bounds.now && bounds.now - bounds.sinceTick ≤ entry.tick)

def planSearch (snapshot : List IndexEntry) (scope : Octets) (queries : List Octets)
    (bounds : SearchBounds) : List IndexEntry :=
  let scored := snapshot.filterMap fun entry =>
    if pathMatchesPrefix entry.path.val scope && bounds.minSize ≤ entry.size &&
        entry.size ≤ bounds.maxSize && recentEnough bounds entry then
      (scoreName (splitName entry.path.val) queries).map (·, entry)
    else
      none
  let swap (previous current : Nat × IndexEntry) : Bool :=
    previous.1 < current.1 ||
      (previous.1 == current.1 && current.2.path.val < previous.2.path.val)
  (insertionSort swap scored).map Prod.snd

def queryTokens (query : Octets) : List Octets :=
  tokens (fun byte => byte == 32 || byte == 0) queryTokenMax queryTokenLenMax query

/-- The bytes of two lengths packed one after the other, each cut off at the size of its buffer. -/
def unpackPair (payload : List UInt64) (firstLen firstMax secondLen secondMax : Nat) :
    Except (Fault Error) (AtMost firstMax × AtMost secondMax) := do
  let first ← unpackBytes payload (min firstLen firstMax) firstMax
  let second ← unpackBytes (payload.drop (Word.divCeil firstLen 8)) (min secondLen secondMax)
    secondMax
  return (first, second)

def handleSearchRequest (now : Nat) (message : RawMessage) : Code Unit :=
  answering message 6 fun replyHandle =>
    let cursor := (message.word 0).toNat
    match unpackPair (message.payload 6) (message.word 1).toNat maxStoragePath
        (message.word 5).toNat (queryTokenMax * (queryTokenLenMax + 1)) with
    | .error _ => pure ()
    | .ok (scope, query) => do
      modify fun service => { service with
        searchIndex :=
          (service.searchIndex.ensureBuilt service.entries service.mutableEntries now).1 }
      let snapshot ← gets fun service => service.searchIndex.entries
      let plan := planSearch snapshot scope.val (queryTokens query.val)
        ⟨(message.word 2).toNat, (message.word 3).toNat, (message.word 4).toNat, now⟩
      match plan[cursor]? with
      | none =>
        channelSend replyHandle ⟨searchReplyTag, [ended.word, .ofNat cursor,
          StorageEntryKind.file.word, 0], []⟩
      | some entry =>
        sendPathReply replyHandle searchReplyTag [ok.word, .ofNat (cursor + 1),
          entry.kind.word, .ofNat entry.path.val.length] entry.path.val

/-! ## Content search -/

/-- The files of a scope by path, and how many were passed over for their size. -/
def planGrep (snapshot : List IndexEntry) (scope : Octets) (fileCap : Nat) :
    List IndexEntry × Nat :=
  let files := snapshot.filter fun entry =>
    pathMatchesPrefix entry.path.val scope && entry.kind == .file
  (insertionSort (fun previous current => current.path.val < previous.path.val)
      (files.filter fun entry => entry.size ≤ fileCap),
    files.countP fun entry => fileCap < entry.size)

/-- `StreamNeedle`: the last bytes of the current line and the line of the last hit. -/
structure StreamNeedle where
  needle : Octets
  window : Octets
  lineNo : Nat
  lastHitLine : Nat

def StreamNeedle.new (needle : Octets) : Option StreamNeedle :=
  if needle.isEmpty || grepNeedleMax < needle.length || needle.contains 10 then none
  else some ⟨needle, [], 1, 0⟩

/-- The line a byte completes a match on, if it does. -/
def StreamNeedle.feedByte (stream : StreamNeedle) (byte : UInt8) : StreamNeedle × Option Nat :=
  if byte = 10 then
    ({ stream with lineNo := stream.lineNo + 1, window := [] }, none)
  else
    let grown := stream.window ++ [byte]
    let window := grown.drop (grown.length - grepNeedleMax)
    if stream.needle.isSuffixOf window ∧ stream.lineNo ≠ stream.lastHitLine then
      ({ stream with window := window, lastHitLine := stream.lineNo }, some stream.lineNo)
    else
      ({ stream with window := window }, none)

def StreamNeedle.feed (stream : StreamNeedle) (chunk : Octets) : StreamNeedle × List Nat :=
  chunk.foldl (fun (stream, lines) byte =>
    let (stream, line) := stream.feedByte byte
    (stream, lines ++ line.toList)) (stream, [])

structure GrepOutcome where
  hitLines : List Nat
  capReachedMidScan : Bool

def GrepOutcome.collect (outcome : GrepOutcome) (limit : Nat) (lines : List Nat) : GrepOutcome :=
  ⟨(outcome.hitLines ++ lines).take limit,
    outcome.capReachedMidScan || limit < (outcome.hitLines ++ lines).length⟩

/-- Scan the chunks of a file from a position on. `chunk` is what can be read there. -/
def scanChunks (chunk : Nat → Nat → Octets) (totalLen limit : Nat) :
    (fuel position : Nat) → StreamNeedle → GrepOutcome → GrepOutcome
  | 0, _, _, outcome => outcome
  | fuel + 1, position, stream, outcome =>
    if totalLen ≤ position || outcome.capReachedMidScan then
      outcome
    else
      let got := chunk position (min grepChunkBytes (totalLen - position))
      if got.isEmpty then
        outcome
      else
        let (stream, lines) := stream.feed got
        scanChunks chunk totalLen limit fuel (position + got.length) stream
          (outcome.collect limit lines)

def scanEntryForMatches (service : Service) (entry : IndexEntry) (needle : Octets)
    (budget : Nat) : GrepOutcome :=
  match StreamNeedle.new needle with
  | none => ⟨[], false⟩
  | some stream =>
    let scan chunk := scanChunks chunk entry.size (min budget grepResultsMax) (entry.size + 1) 0
      stream ⟨[], false⟩
    match entry.origin with
    | .boot => scan fun position want =>
      (service.bootstore.drop (entry.bootOffset + position)).take want
    | .mutable =>
      match (findMutableEntry service.mutableEntries entry.path.val).bind
          service.mutableEntries.get? with
      | none => ⟨[], false⟩
      | some file => scan fun position want =>
        (service.memory.read file.dataHandle position (min want (file.dataLen - position))).getD []

def grepFlags (base : UInt64) (truncated : Bool) : UInt64 :=
  if truncated then base ||| grepFlagTruncated else base

def capExhausted (totalMatches resultCap : Nat) : Bool :=
  0 < resultCap && resultCap ≤ totalMatches

/-- The hit at the cursor with its file and flag, or how many hits there were, whether some were
left out and how many files were scanned. -/
def grepFiles (service : Service) (needle : Octets) (cursor resultCap : Nat) :
    (files : List IndexEntry) → (total scanned : Nat) → (truncated : Bool) →
      (IndexEntry × Nat × Nat × Bool) ⊕ (Nat × Nat × Bool)
  | [], total, scanned, truncated => .inr (total, scanned, truncated)
  | entry :: files, total, scanned, truncated =>
    if resultCap ≤ total then
      .inr (total, scanned, truncated)
    else
      let outcome := scanEntryForMatches service entry needle (resultCap - total)
      let truncated := truncated || outcome.capReachedMidScan
      if total ≤ cursor ∧ cursor < total + outcome.hitLines.length then
        .inl (entry, cursor, outcome.hitLines[cursor - total]?.getD 0, truncated)
      else
        grepFiles service needle cursor resultCap files (total + outcome.hitLines.length)
          (scanned + 1) truncated

def grepCap (requested largest : Nat) : Nat :=
  if requested = 0 then largest else min requested largest

def handleGrepRequest (now : Nat) (message : RawMessage) : Code Unit :=
  answering message 6 fun replyHandle =>
    let cursor := (message.word 0).toNat
    match unpackPair (message.payload 5) (message.word 1).toNat maxStoragePath
        (message.word 2).toNat grepNeedleMax with
    | .error _ => pure ()
    | .ok (scope, needle) =>
      if (StreamNeedle.new needle.val).isNone then
        pure ()
      else do
        let resultCap := grepCap (message.word 4).toNat grepResultsMax
        modify fun service => { service with
          searchIndex :=
            (service.searchIndex.ensureBuilt service.entries service.mutableEntries now).1 }
        let service ← gets id
        let (files, oversizeSkipped) := planGrep service.searchIndex.entries scope.val
          (grepCap (message.word 3).toNat grepFileBytesMax)
        let flags := if 0 < oversizeSkipped then grepFlagOversizeSkipped else 0
        match grepFiles service needle.val cursor resultCap files 0 0 false with
        | .inl (entry, total, line, truncated) =>
          sendPathReply replyHandle grepReplyTag [ok.word, .ofNat (total + 1),
            .ofNat line, grepFlags flags truncated, .ofNat entry.path.val.length] entry.path.val
        | .inr (total, scanned, truncated) =>
          let truncated := truncated || capExhausted total resultCap && scanned < files.length
          channelSend replyHandle ⟨grepReplyTag, [ended.word, .ofNat cursor, 0,
            grepFlags flags truncated, 0], []⟩

def indexTailWords (index : SearchIndex) : List UInt64 :=
  let (count, dirty, lastRebuild) := index.stats
  [indexTailMagic, .ofNat count, if dirty then 1 else 0, .ofNat lastRebuild]

end ServiceOS.Storage
