import BucketStore.Proofs.KeywordNotation
import BucketStore.Proofs.Utf8
import BucketStore.Proofs.Action

/-!
What a connection string can give: parameters of known names, whose texts hold no NUL. In the
keyword notation a text ends at the first NUL; in the notation of addresses a zero byte is refused.
-/

namespace BucketStore.ConnectionString

/-- A text without NUL. -/
def NulFree (s : String) : Prop :=
  '\x00' ∉ s.toList

instance (s : String) : Decidable (NulFree s) :=
  inferInstanceAs (Decidable (¬ _ ∈ _))

/-- A value without NUL, if it is a text. -/
def Setting.Free (value : Setting) : Prop :=
  ∀ s, value = .text s → NulFree s

/-- Parameters of known names, without NUL. -/
def Parameters.Sound (ps : Parameters) : Prop :=
  ∀ entry ∈ ps.given, entry.1 ∈ names ∧ entry.2.Free

namespace Parameters

variable {ps next : Parameters} {name : String} {value : Setting}

theorem Sound.empty : ({} : Parameters).Sound := fun _ member => nomatch member

theorem Sound.set (sound : ps.Sound) (known : name ∈ names) (free : value.Free) :
    (ps.set name value).Sound := by
  intro entry member
  obtain rfl | earlier := List.mem_cons.mp member
  · exact ⟨known, free⟩
  · exact sound entry (List.mem_filter.mp earlier).1

/-- What the older switch for encryption stands for. -/
theorem nulFree_switch (required : Bool) : NulFree (if required then "require" else "prefer") := by
  cases required <;> decide

theorem Sound.store? (sound : ps.Sound) (free : value.Free)
    (stored : ps.store? name value = some next) : next.Sound := by
  unfold Parameters.store? at stored
  dsimp only at stored
  split at stored
  · obtain rfl := Option.some.inj stored
    refine sound.set (by decide) fun s same => ?_
    exact Setting.text.inj same ▸ nulFree_switch _
  split at stored
  next known =>
    obtain rfl := Option.some.inj stored
    exact sound.set (List.contains_iff_mem.mp known) free
  · cases stored

theorem Sound.get? (sound : ps.Sound) (found : ps.get? name = some value) :
    name ∈ names ∧ value.Free := by
  unfold Parameters.get? at found
  obtain ⟨entry, located, rfl⟩ := Option.map_eq_some_iff.mp found
  have same : entry.1 = name := by simpa using List.find?_some located
  exact same ▸ sound entry (List.mem_of_find?_eq_some located)

end Parameters

theorem not_mem_dropWhile {α : Type} {p : α → Bool} {x : α} {xs : List α} (h : x ∉ xs) :
    x ∉ xs.dropWhile p :=
  fun member => h ((List.dropWhile_sublist p).subset member)

namespace Keyword

/-- A bare value and what follows it come out of the text. -/
theorem bareValue_free {cs : List Char} (free : '\x00' ∉ cs) :
    '\x00' ∉ (bareValue cs).1 ∧ '\x00' ∉ (bareValue cs).2 := by
  fun_induction bareValue cs <;> simp_all

theorem quotedValue?_free {cs : List Char} {result : List Char × List Char} (free : '\x00' ∉ cs)
    (h : quotedValue? cs = some result) : '\x00' ∉ result.1 ∧ '\x00' ∉ result.2 := by
  fun_induction quotedValue? cs generalizing result with
  | case1 => cases h
  | case2 => cases h
  | case3 c rest ih =>
    obtain ⟨p, found, rfl⟩ := Option.map_eq_some_iff.mp h
    simp only [List.mem_cons, not_or] at free
    have later := ih free.2.2 found
    simpa [free.2.1] using later
  | case4 rest =>
    obtain rfl := Option.some.inj h
    simpa using free
  | case5 c rest _ _ _ ih =>
    obtain ⟨p, found, rfl⟩ := Option.map_eq_some_iff.mp h
    simp only [List.mem_cons, not_or] at free
    have later := ih free.2 found
    simpa [free.1] using later

theorem value?_free {cs : List Char}
    {result : { p : List Char × List Char // p.2.length ≤ cs.length }} (free : '\x00' ∉ cs)
    (h : value? cs = .ok result) : '\x00' ∉ result.1.1 ∧ '\x00' ∉ result.1.2 := by
  have start : '\x00' ∉ cs.dropWhile Text.isLayout := not_mem_dropWhile free
  unfold value? at h
  split at h
  next body opening =>
    rw [opening, List.mem_cons, not_or] at start
    split at h
    · cases h
    next read =>
      obtain rfl := Except.ok.inj h
      exact quotedValue?_free start.2 read
  next =>
    obtain rfl := Except.ok.inj h
    exact bareValue_free start

theorem pair?_free {cs : List Char} {p : Pair cs} (free : '\x00' ∉ cs) (h : pair? cs = .ok p) :
    '\x00' ∉ p.value ∧ '\x00' ∉ p.rest := by
  unfold pair? at h
  dsimp only at h
  split at h
  next more sign =>
    have behind := not_mem_dropWhile (p := Text.isLayout)
      (not_mem_dropWhile (p := (!endsName ·)) free)
    rw [sign, List.mem_cons, not_or] at behind
    cases read : value? more with
    | error refusal =>
      rw [read] at h
      cases h
    | ok result =>
      rw [read] at h
      obtain rfl := Except.ok.inj h
      exact value?_free behind.2 read
  · cases h

theorem readPairs_sound {ps result : Parameters} {cs : List Char} (sound : ps.Sound)
    (free : '\x00' ∉ cs) (h : readPairs ps cs = .ok result) : result.Sound := by
  cases start : cs.dropWhile Text.isLayout with
  | nil => exact Except.ok.inj ((readPairs_blank start).symm.trans h) ▸ sound
  | cons first rest =>
    have startFree : '\x00' ∉ first :: rest := start ▸ not_mem_dropWhile free
    have le : (first :: rest).length ≤ cs.length :=
      start ▸ (List.dropWhile_sublist Text.isLayout).length_le
    rw [readPairs_cons start] at h
    split at h
    · cases h
    next p read =>
      have shorter := Nat.lt_of_lt_of_le p.shorter le
      obtain ⟨valueFree, restFree⟩ := pair?_free startFree read
      have given : (Setting.text (String.ofList p.value)).Free := fun s same => by
        rw [← Setting.text.inj same, NulFree, String.toList_ofList]
        exact valueFree
      split at h
      · cases h
      next stored => exact readPairs_sound (sound.store? given stored) restFree h
termination_by cs.length

end Keyword

namespace Uri

private theorem hexDigit?_lt {c : Char} {n : Nat} (h : Text.hexDigit? c = some n) : n < 16 := by
  unfold Text.hexDigit? at h
  dsimp only at h
  split at h
  · have := Option.some.inj h
    omega
  split at h
  · have := Option.some.inj h
    omega
  split at h
  · have := Option.some.inj h
    omega
  · cases h

private theorem decodeRun_nonzero {token : String} {fuel : Nat} {read bytes : List UInt8}
    {cs rest : List Char} (nonzero : 0 ∉ read) (free : '\x00' ∉ cs)
    (h : decodeRun token fuel read cs = .ok (bytes, rest)) : 0 ∉ bytes := by
  fun_induction decodeRun token fuel read cs with
  | case1 | case2 =>
    obtain ⟨rfl, -⟩ := Prod.mk.inj (Except.ok.inj h)
    exact fun member => nonzero (List.mem_reverse.mp member)
  | case3 | case5 | case6 => cases h
  | case4 fuel read a b more high low first second notZero ih =>
    refine ih (fun member => ?_) (fun member => free (by simp [member])) h
    obtain zero | earlier := List.mem_cons.mp member
    · have small : 16 * high + low < 256 := by
        have := hexDigit?_lt first
        have := hexDigit?_lt second
        omega
      have value := (Text.toNat_ofNat_byte small).symm.trans (congrArg UInt8.toNat zero).symm
      have none : (0 : UInt8).toNat = 0 := rfl
      omega
    · exact nonzero earlier
  | case7 =>
    obtain ⟨rfl, -⟩ := Prod.mk.inj (Except.ok.inj h)
    exact fun member => nonzero (List.mem_reverse.mp member)
  | case8 fuel read c rest _ _ ih =>
    simp only [List.mem_cons, not_or] at free
    refine ih (fun member => ?_) free.2 h
    obtain fresh | earlier := List.mem_append.mp member
    · exact Text.encodeChar_nonzero (Ne.symm free.1) (List.mem_reverse.mp fresh)
    · exact nonzero earlier

private theorem decode_nonzero {part : List Char} {bytes : List UInt8} (free : '\x00' ∉ part)
    (h : decode part = .ok bytes) : 0 ∉ bytes := by
  unfold decode at h
  obtain ⟨⟨read, rest⟩, run, h⟩ := Result.bind_eq_ok h
  dsimp only at h
  split at h
  · obtain rfl := Except.ok.inj h
    exact decodeRun_nonzero List.not_mem_nil (not_mem_dropWhile free) run
  · cases h

private theorem free_ofBytes {bytes : List UInt8} (nonzero : 0 ∉ bytes) :
    (Setting.ofBytes bytes).Free := by
  intro s same
  unfold Setting.ofBytes at same
  split at same
  next read =>
    obtain rfl := Setting.text.inj same
    exact Text.decodeUtf8_nulFree nonzero read
  · cases same

theorem storePart_sound {ps result : Parameters} {name : String} {part : List Char}
    (sound : ps.Sound) (known : name ∈ names) (free : '\x00' ∉ part)
    (h : storePart ps name part = .ok result) : result.Sound := by
  unfold storePart at h
  split at h
  · exact Except.ok.inj h ▸ sound
  · obtain ⟨bytes, decoded, h⟩ := Result.bind_eq_ok h
    exact Except.ok.inj h ▸ sound.set known (free_ofBytes (decode_nonzero free decoded))

theorem cutAt_free {p : Char → Bool} {cs : List Char} (free : '\x00' ∉ cs) :
    '\x00' ∉ (cutAt p cs).1 ∧ '\x00' ∉ (cutAt p cs).2 :=
  ⟨fun member => free ((List.takeWhile_sublist _).subset member), not_mem_dropWhile free⟩

theorem readCredentials_sound {ps result : Parameters} {cs rest : List Char} (sound : ps.Sound)
    (free : '\x00' ∉ cs) (h : readCredentials ps cs = .ok (result, rest)) :
    result.Sound ∧ '\x00' ∉ rest := by
  unfold readCredentials at h
  split at h
  next credentials behind cut =>
    have parts := cutAt_free (p := fun c => c == '@' || c == '/') free
    rw [cut] at parts
    have fields := cutAt_free (p := (· == ':')) parts.1
    obtain ⟨withUser, userStored, h⟩ := Result.bind_eq_ok h
    obtain ⟨withPassword, passwordStored, h⟩ := Result.bind_eq_ok h
    obtain ⟨rfl, rfl⟩ := Prod.mk.inj (Except.ok.inj h)
    have userSound := storePart_sound sound (by decide) fields.1 userStored
    have passwordFree : '\x00' ∉ ((cutAt (· == ':') credentials).2).drop 1 :=
      fun member => fields.2 (List.mem_of_mem_drop member)
    exact ⟨storePart_sound userSound (by decide) passwordFree passwordStored,
      fun member => parts.2 (List.mem_cons_of_mem _ member)⟩
  · obtain ⟨rfl, rfl⟩ := Prod.mk.inj (Except.ok.inj h)
    exact ⟨sound, free⟩

theorem readHost_free {uri : String} {cs host rest : List Char} (free : '\x00' ∉ cs)
    (h : readHost uri cs = .ok (host, rest)) : '\x00' ∉ host ∧ '\x00' ∉ rest := by
  unfold readHost at h
  split at h
  next inner =>
    have parts := cutAt_free (p := (· == ']')) (fun member => free (List.mem_cons_of_mem _ member) :
      '\x00' ∉ inner)
    split at h
    · cases h
    · cases h
    next address bracket more _ cut =>
      rw [cut] at parts
      have moreFree : '\x00' ∉ more := fun member => parts.2 (List.mem_cons_of_mem _ member)
      split at h
      · obtain ⟨rfl, rfl⟩ := Prod.mk.inj (Except.ok.inj h)
        exact ⟨parts.1, moreFree⟩
      · split at h
        · obtain ⟨rfl, rfl⟩ := Prod.mk.inj (Except.ok.inj h)
          exact ⟨parts.1, moreFree⟩
        · cases h
  · have parts := cutAt_free (p := endsHost) free
    rw [Except.ok.inj h] at parts
    exact parts

theorem readPort_free {cs : List Char} (free : '\x00' ∉ cs) :
    '\x00' ∉ (readPort cs).1 ∧ '\x00' ∉ (readPort cs).2 := by
  unfold readPort
  split
  · exact cutAt_free fun member => free (List.mem_cons_of_mem _ member)
  · exact ⟨List.not_mem_nil, free⟩

theorem readHosts_free {uri : String} {fuel : Nat} {hosts ports cs : List Char}
    {result : List Char × List Char × List Char} (hostsFree : '\x00' ∉ hosts)
    (portsFree : '\x00' ∉ ports) (free : '\x00' ∉ cs)
    (h : readHosts uri fuel hosts ports cs = .ok result) :
    '\x00' ∉ result.1 ∧ '\x00' ∉ result.2.1 ∧ '\x00' ∉ result.2.2 := by
  induction fuel generalizing hosts ports cs with
  | zero => exact Except.ok.inj h ▸ ⟨hostsFree, portsFree, free⟩
  | succ fuel ih =>
    unfold readHosts at h
    obtain ⟨⟨host, rest⟩, hostRead, h⟩ := Result.bind_eq_ok h
    obtain ⟨hostFree, restFree⟩ := readHost_free free hostRead
    obtain ⟨portFree, moreFree⟩ := readPort_free restFree
    dsimp only at h
    split at h
    next more next =>
      refine ih ?_ ?_ (fun member => moreFree (next ▸ List.mem_cons_of_mem _ member)) h
      · simp [hostsFree, hostFree]
      · simp [portsFree, portFree]
    · obtain rfl := Except.ok.inj h
      exact ⟨by simp [hostsFree, hostFree], by simp [portsFree, portFree], moreFree⟩

theorem splitQuery_free {parameter name value : List Char} (free : '\x00' ∉ parameter)
    (h : splitQuery parameter = .ok (name, value)) : '\x00' ∉ name ∧ '\x00' ∉ value := by
  have parts := cutAt_free (p := (· == '=')) free
  unfold splitQuery at h
  split at h
  next cut =>
    rw [cut] at parts
    split at h
    · cases h
    · obtain ⟨rfl, rfl⟩ := Prod.mk.inj (Except.ok.inj h)
      exact ⟨parts.1, fun member => parts.2 (List.mem_cons_of_mem _ member)⟩
  · cases h

theorem storeQuery_sound {ps result : Parameters} {parameter : List Char} (sound : ps.Sound)
    (free : '\x00' ∉ parameter) (h : storeQuery ps parameter = .ok result) : result.Sound := by
  unfold storeQuery at h
  obtain ⟨⟨name, value⟩, cut, h⟩ := Result.bind_eq_ok h
  obtain ⟨nameBytes, -, h⟩ := Result.bind_eq_ok h
  obtain ⟨valueBytes, decoded, h⟩ := Result.bind_eq_ok h
  have valueFree := free_ofBytes (decode_nonzero (splitQuery_free free cut).2 decoded)
  dsimp only at h
  split at h
  next stored =>
    obtain rfl := Except.ok.inj h
    refine sound.store? ?_ stored
    split
    · intro s same
      obtain rfl := Setting.text.inj same
      decide
    · exact valueFree
  · cases h

theorem foldlM_storeQuery_sound {ps result : Parameters} {parts : List (List Char)}
    (sound : ps.Sound) (free : ∀ part ∈ parts, '\x00' ∉ part)
    (h : parts.foldlM storeQuery ps = .ok result) : result.Sound := by
  induction parts generalizing ps with
  | nil => exact Except.ok.inj h ▸ sound
  | cons part rest ih =>
    rw [List.foldlM_cons] at h
    obtain ⟨next, stored, h⟩ := Result.bind_eq_ok h
    exact ih (storeQuery_sound sound (free part List.mem_cons_self) stored)
      (fun part member => free part (List.mem_cons_of_mem _ member)) h

theorem splitOn_free {cs part : List Char} {separator : Char} (free : '\x00' ∉ cs)
    (member : part ∈ cs.splitOn separator) : '\x00' ∉ part := by
  induction cs generalizing part with
  | nil =>
    obtain rfl : part = [] := by simpa using member
    exact List.not_mem_nil
  | cons c cs ih =>
    rw [List.mem_cons, not_or] at free
    rw [List.splitOn_cons_eq_if_modifyHead] at member
    split at member
    · obtain rfl | later := List.mem_cons.mp member
      · exact List.not_mem_nil
      · exact ih free.2 later
    · cases pieces : cs.splitOn separator with
      | nil => simp [pieces] at member
      | cons piece more =>
        rw [pieces] at member
        obtain rfl | later := List.mem_cons.mp member
        · rw [List.mem_cons, not_or]
          exact ⟨free.1, ih free.2 (pieces ▸ List.mem_cons_self)⟩
        · exact ih free.2 (pieces ▸ List.mem_cons_of_mem _ later)

theorem readQuery_sound {ps result : Parameters} {cs : List Char} (sound : ps.Sound)
    (free : '\x00' ∉ cs) (h : readQuery ps cs = .ok result) : result.Sound := by
  unfold readQuery at h
  refine foldlM_storeQuery_sound sound (fun part member => ?_) h
  split at member
  · exact splitOn_free free ((List.dropLast_sublist _).subset member)
  · exact splitOn_free free member

theorem readBody_sound {uri : String} {cs : List Char} {result : Parameters} (free : '\x00' ∉ cs)
    (h : readBody uri cs = .ok result) : result.Sound := by
  unfold readBody at h
  obtain ⟨⟨ps, rest⟩, credentials, h⟩ := Result.bind_eq_ok h
  obtain ⟨psSound, restFree⟩ := readCredentials_sound Parameters.Sound.empty free credentials
  obtain ⟨⟨hosts, ports, behind⟩, hostsRead, h⟩ := Result.bind_eq_ok h
  obtain ⟨hostsFree, portsFree, behindFree⟩ :=
    readHosts_free List.not_mem_nil List.not_mem_nil restFree hostsRead
  obtain ⟨withHost, hostStored, h⟩ := Result.bind_eq_ok h
  obtain ⟨withPort, portStored, h⟩ := Result.bind_eq_ok h
  have hostSound := storePart_sound psSound (by decide) hostsFree hostStored
  have portSound := storePart_sound hostSound (by decide) portsFree portStored
  dsimp only at h
  split at h
  next more _ _ =>
    have parts := cutAt_free (p := (· == '?')) (fun member =>
      behindFree (List.mem_cons_of_mem _ member) : '\x00' ∉ more)
    obtain ⟨withDatabase, databaseStored, h⟩ := Result.bind_eq_ok h
    have databaseSound := storePart_sound portSound (by decide) parts.1 databaseStored
    exact readQuery_sound databaseSound (fun member => parts.2 (List.mem_of_mem_drop member)) h
  · exact readQuery_sound portSound (fun member => behindFree (List.mem_of_mem_drop member)) h

end Uri

/-- Whatever is read are parameters of known names, whose texts hold no NUL. -/
theorem read_sound {s : String} {ps : Parameters} (h : read s = .ok ps) : ps.Sound := by
  have free : '\x00' ∉ (untilNul s).toList := by
    rw [untilNul, String.toList_ofList]
    intro member
    have others := List.all_takeWhile (p := fun c => decide (c ≠ '\x00')) (l := s.toList)
    exact absurd (List.all_eq_true.mp others _ member) (by decide)
  unfold read at h
  dsimp only at h
  split at h
  next body scheme =>
    refine Uri.readBody_sound (fun member => free ?_) h
    obtain ⟨scheme, -, rfl⟩ := Option.map_eq_some_iff.mp scheme
    exact List.mem_of_mem_drop member
  · exact Keyword.readPairs_sound Parameters.Sound.empty free h

end BucketStore.ConnectionString
