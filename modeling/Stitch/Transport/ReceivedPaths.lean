import Stitch.Transport.FileIntegrity

/-!
# Where a received file is put

Two paths are made from the name of an offer, one for the file while it is written and one for
the finished file, and neither name is looked at.
-/

namespace Stitch.Transport.ReceivedPaths

open Foundation.FallibleState Foundation.PathComponents FileTransfer
open FileIntegrity

section

/-- The path has no step before its last segment, and that is an ordinary name. -/
def NamesEntry (path : List Char) : Prop :=
  ∃ inits leaf, segments path = inits ++ [leaf] ∧ inits.filterMap component? = [] ∧
    component? leaf = some (.normal leaf)

def StaysInside (dir name : List Char) : Prop :=
  ('/' ∉ name ∧ component? name = some (.normal name)) ∨
    (components dir = [.root] ∧ ∃ rest, name = '/' :: rest ∧ NamesEntry rest)

def suffix : List Char := ['.', 't', 'm', 'p']

theorem suffix_plain : '/' ∉ suffix := by decide

variable {dir name front back inits last : List Char}

theorem temp_child (plain : '/' ∉ name) : DirectChild dir (join dir (tempName name)) := by
  apply (plain_child_iff _).mpr
  · apply component_long
    simp [tempName]
  · simp [tempName, plain]

theorem temp_steps {inits : List (List Char)} (plain : '/' ∉ front)
    (split : ∀ tail, '/' ∉ tail → segments (back ++ tail) = inits ++ [last ++ tail]) :
    steps (tempName (front ++ '/' :: back)) =
      [('.' :: front)].filterMap component? ++ inits.filterMap component? ++
        [.normal (last ++ suffix)] := by
  have cut : tempName (front ++ '/' :: back) = ('.' :: front) ++ '/' :: (back ++ suffix) := by
    simp [tempName, suffix]
  have leaf : component? (last ++ suffix) = some (.normal (last ++ suffix)) := by
    apply component_long
    simp [suffix]
  rw [cut, steps_append, steps, steps, segments_plain (by simp [plain]), split suffix suffix_plain,
    List.filterMap_append, List.filterMap_cons_some leaf, List.append_assoc]
  rfl

theorem temp_relative (name : List Char) : (tempName name).head? ≠ some '/' := by
  simp [tempName]

theorem temp_outside (plain : '/' ∉ front) (nonempty : front ≠ []) :
    ¬ DirectChild dir (join dir (tempName (front ++ '/' :: back))) := by
  intro child
  obtain ⟨inits, last, _, split⟩ := segments_last back
  obtain ⟨leaf, whole⟩ := child_steps (temp_relative _) child
  rw [temp_steps plain split] at whole
  have step : ∃ first, component? ('.' :: front) = some first := by
    unfold component?
    rw [if_neg (by simp [nonempty])]
    split_ifs
    · exact ⟨_, rfl⟩
    · exact ⟨_, rfl⟩
  obtain ⟨first, read⟩ := step
  rw [List.filterMap_cons_some read] at whole
  simpa using congrArg List.length whole

/-- For an absolute name both files are children of the root directory or of none. -/
theorem absolute_children_iff :
    DirectChild dir (join dir (tempName ('/' :: back))) ∧
        DirectChild dir (join dir ('/' :: back)) ↔
      components dir = [.root] ∧ NamesEntry back := by
  obtain ⟨inits, last, whole, split⟩ := segments_last back
  have temp : steps (tempName ('/' :: back)) =
      inits.filterMap component? ++ [.normal (last ++ suffix)] :=
    temp_steps (List.not_mem_nil : '/' ∉ []) split
  have out : components (join dir ('/' :: back)) =
      .root :: (inits.filterMap component? ++ [last].filterMap component?) := by
    rw [join_absolute rfl, components, steps, segments_slash, whole,
      List.filterMap_cons_none rfl, List.filterMap_append]
    rfl
  constructor
  · intro children
    obtain ⟨leaf, single⟩ := child_steps (temp_relative _) children.1
    have none : inits.filterMap component? = [] := by
      rw [temp] at single
      rcases List.append_eq_singleton_iff.mp single with only | lone
      · exact only.1
      · cases lone.2
    obtain ⟨name, same⟩ := children.2
    rw [out, none, List.nil_append] at same
    cases read : component? last with
    | none =>
      rw [List.filterMap_cons_none read] at same
      rcases List.append_eq_singleton_iff.mp same.symm with only | lone
      · cases only.2
      · cases lone.2
    | some step =>
      rw [List.filterMap_cons_some read] at same
      have parts : components dir = [.root] ∧ [.normal name] = [step] :=
        List.append_inj' (same.symm : components dir ++ [.normal name] = [.root] ++ [step]) rfl
      cases parts.2
      rw [component_normal read] at read
      exact ⟨parts.1, inits, last, whole, none, read⟩
  · intro entry
    obtain ⟨root, others, leaf, same, none, read⟩ := entry
    obtain ⟨rfl, single⟩ := List.append_inj' (whole.symm.trans same) rfl
    cases single
    have nonempty : dir ≠ [] := by
      intro empty
      rw [empty] at root
      cases root
    constructor
    · refine ⟨last ++ suffix, ?_⟩
      rw [components_join (temp_relative _) nonempty, temp, none]
      rfl
    · refine ⟨last, ?_⟩
      rw [out, root, none, List.filterMap_cons_some read]
      rfl

/-- Both files are children of the directory exactly for the names that stay inside. -/
theorem children_iff :
    DirectChild dir (join dir (tempName name)) ∧ DirectChild dir (join dir name) ↔
      StaysInside dir name := by
  by_cases plain : '/' ∈ name
  · obtain ⟨front, back, rfl, first⟩ := List.eq_append_cons_of_mem plain
    cases front with
    | nil =>
      rw [List.nil_append, absolute_children_iff]
      constructor
      · intro entry
        exact Or.inr ⟨entry.1, back, rfl, entry.2⟩
      · intro inside
        rcases inside with single | ⟨root, rest, same, entry⟩
        · exact absurd plain single.1
        · cases same
          exact ⟨root, entry⟩
    | cons char rest =>
      constructor
      · intro children
        exact absurd children.1 (temp_outside first (List.cons_ne_nil char rest))
      · intro inside
        rcases inside with single | ⟨_, _, same, _⟩
        · exact absurd plain single.1
        · cases same
          exact absurd List.mem_cons_self first
  · constructor
    · intro children
      exact Or.inl ⟨plain, (plain_child_iff plain).mp children.2⟩
    · intro inside
      rcases inside with single | ⟨_, _, same, _⟩
      · exact ⟨temp_child plain, (plain_child_iff plain).mpr single.2⟩
      · rw [same] at plain
        exact absurd List.mem_cons_self plain

end

section

/-- Every path created, renamed to or removed so far has the property. -/
def PutsOnly (Allowed : List Char → Prop) (receiver : Receiver) : Prop :=
  ∀ op ∈ receiver.ops, ∀ path, op.target? = some path → Allowed path

variable {Allowed : List Char → Prop} {library : Library} {outside : Outside}
  {temp : List Char}

theorem keeps_puts_on_disk (op : FileOp) (allowed : ∀ path, op.target? = some path →
    refusal outside.directory path = none → Allowed path) :
    Keeps (PutsOnly Allowed) (onDisk outside op) := by
  intro receiver holds
  unfold onDisk
  split
  · exact holds
  · next answered =>
    intro other member path target
    rcases List.mem_append.mp member with old | new
    · exact holds other old path target
    · rw [List.mem_singleton.mp new] at target
      rw [target, Option.bind_some] at answered
      exact allowed path target (Option.or_eq_none_iff.mp answered).1

theorem keeps_puts_frame (frameType : UInt8) (payload : List UInt8) :
    Keeps (PutsOnly Allowed) (writeFrame outside frameType payload) := by
  intro receiver holds
  unfold PutsOnly
  rw [(keeps_ops_frame frameType payload : Keeps _ (writeFrame outside frameType payload))
    receiver rfl]
  exact holds

theorem keeps_puts_loop (total : UInt64) (ending : TransferError) (allowed : Allowed temp)
    (frames : List Frame) (hasher : Option (List UInt8)) (received : UInt64) :
    Keeps (PutsOnly Allowed)
      (receiveLoop library outside total temp ending frames hasher received) := by
  induction frames generalizing hasher received with
  | nil => exact keeps_settle _
  | cons frame rest ih =>
    unfold receiveLoop
    split_ifs
    · exact keeps_settle _
    · refine keeps_bind (keeps_puts_on_disk (.write temp _) (by rintro path ⟨⟩)) fun _ => ?_
      refine keeps_bind (keeps_change fun receiver holds => holds) fun _ => ?_
      exact ih _ _
    · exact keeps_settle _
    · cases hasher with
      | none => exact keeps_settle _
      | some fed =>
        dsimp only
        split_ifs
        · refine keeps_bind (keeps_attempt (keeps_puts_on_disk (.remove temp) ?_)) fun _ => ?_
          · rintro path ⟨⟩ -
            exact allowed
          · exact keeps_settle _
        · exact keeps_pure _
    · exact keeps_settle _

variable {outputDir : List Char} {offer : FileOffer} (frames : List Frame)
  (ending : TransferError)

theorem keeps_puts_offered (tempAllowed : Allowed (join outputDir (tempName offer.name.toList)))
    (outAllowed : refusal outside.directory (join outputDir offer.name.toList) = none →
      Allowed (join outputDir offer.name.toList)) :
    Keeps (PutsOnly Allowed)
      (receiveOffered library outside outputDir offer frames ending) := by
  refine keeps_bind (keeps_puts_frame _ _) fun _ => ?_
  refine keeps_bind (keeps_puts_on_disk (.create _) ?_) fun _ => ?_
  · rintro path ⟨⟩ -
    exact tempAllowed
  refine keeps_bind (keeps_puts_loop _ _ tempAllowed _ _ _) fun _ => ?_
  refine keeps_bind (keeps_puts_on_disk (.flush _) nofun) fun _ => ?_
  refine keeps_bind (keeps_puts_on_disk (.rename _ _) ?_) fun _ => ?_
  · rintro path ⟨⟩ taken
    exact outAllowed taken
  refine keeps_bind (keeps_puts_frame _ _) fun _ => ?_
  refine keeps_bind (fun receiver holds => ?_) fun _ => keeps_pure _
  unfold finish call
  split
  · exact holds
  · exact holds

/-- Where no temporary file can be made the transfer ends before anything is put anywhere. -/
theorem keeps_puts_refused
    (refused : refusal outside.directory (join outputDir (tempName offer.name.toList)) ≠ none) :
    Keeps (PutsOnly Allowed)
      (receiveOffered library outside outputDir offer frames ending) := by
  refine keeps_bind (keeps_puts_frame _ _) fun _ => ?_
  intro receiver holds
  obtain ⟨text, answer⟩ := Option.ne_none_iff_exists'.mp refused
  have failed : onDisk outside (.create (join outputDir (tempName offer.name.toList))) receiver =
      (.error (.io text), { receiver with calls := receiver.calls + 1 }) := by
    simp only [onDisk, FileOp.target?, Option.bind_some, answer, Option.some_or]
  rw [bind_of_error failed]
  exact holds

end

section

/-- Whatever the disk lets be put at the two paths of the name is put into the directory. -/
def Contained (directory : List Component → Bool) (dir name : List Char) : Prop :=
  refusal directory (join dir (tempName name)) ≠ none ∨ StaysInside dir name ∨
    (DirectChild dir (join dir (tempName name)) ∧ refusal directory (join dir name) ≠ none)

variable (library : Library) (accept : FileOffer → Bool) (directory : List Component → Bool)
  (outputDir : List Char) {payload : List UInt8} {offer : FileOffer}

/-- Nothing fails that the disk allows. -/
def calm : Outside := ⟨fun _ => none, accept, directory⟩

theorem calm_quiet (number : Nat) : (calm accept directory).faults number = none := rfl

variable {library accept directory outputDir}
  (tempTaken : refusal directory (join outputDir (tempName offer.name.toList)) = none)

include tempTaken in
theorem offer_alone_creates (ending : TransferError) :
    (receiveOffered library (calm accept directory) outputDir offer [] ending Receiver.new).2.ops =
      [.create (join outputDir (tempName offer.name.toList))] := by
  have quiet := calm_quiet accept directory
  obtain ⟨_, accepted, sent⟩ := succeeds_frame quiet frameFileAccept [] Receiver.new
  have before : accepted.ops = [] := (keeps_ops_frame _ _).after rfl sent
  obtain ⟨_, opened, created⟩ := succeeds_on_disk quiet (.create _) tempTaken accepted
  rw [receiveOffered, bind_of_ok sent, bind_of_ok created]
  change opened.ops = _
  rw [on_disk_ok created, before]
  rfl

include tempTaken in
theorem closed_transfer_puts {Allowed : List Char → Prop} (approved : accept offer = true)
    (fits : payload.length ≤ maxFramePayload) (parsed : library.parseOffer payload = .ok offer)
    (outTaken : refusal directory (join outputDir offer.name.toList) = none)
    (puts : PutsOnly Allowed (receiveFile library (calm accept directory) outputDir "closed"
      ((sentFrames library payload []).flatMap Frame.bytes) Receiver.new).2) :
    Allowed (join outputDir (tempName offer.name.toList)) ∧
      Allowed (join outputDir offer.name.toList) := by
  have fit := closed_frames_fit library fits
  obtain ⟨result, after, returned⟩ := receive_sent (calm_quiet accept directory) approved parsed
    outputDir tempTaken outTaken "closed" fit Receiver.new
  rw [returned] at puts
  rw [receiveFile, incoming_written "closed" fit] at returned
  obtain ⟨chunks, closing, rest, _, _, _, _, ops⟩ :=
    receive_offered_ops (receive_frames_ok parsed returned).2
  rw [PutsOnly, ops] at puts
  constructor
  · exact puts _ List.mem_cons_self _ rfl
  · exact puts _ (List.mem_append_right _ (.tail _ List.mem_cons_self)) _ rfl

variable (library accept directory outputDir)

/-- For an offer that can be read, every path of every transfer is a child of the output
directory exactly when the offer is refused or what the disk allows is contained. -/
theorem received_paths_inside_iff (fits : payload.length ≤ maxFramePayload)
    (parsed : library.parseOffer payload = .ok offer) :
    (∀ faults ended stream frames ending,
        incoming ended stream = (⟨frameFileOffer, payload⟩ :: frames, ending) →
        PutsOnly (DirectChild outputDir)
          (receiveFile library ⟨faults, accept, directory⟩ outputDir ended stream
            Receiver.new).2) ↔
      accept offer = false ∨ Contained directory outputDir offer.name.toList := by
  have read : ∀ faults frames ending, accept offer = true →
      receiveFrames library ⟨faults, accept, directory⟩ outputDir
          (⟨frameFileOffer, payload⟩ :: frames) ending =
        receiveOffered library ⟨faults, accept, directory⟩ outputDir offer frames ending := by
    intro faults frames ending approved
    simp only [receiveFrames, ne_eq, not_true_eq_false, if_false, parsed, approved,
      Bool.true_eq_false]
  constructor
  · intro inside
    cases approved : accept offer with
    | false => exact Or.inl rfl
    | true =>
      refine Or.inr (or_iff_not_imp_left.mpr fun present => ?_)
      have tempTaken := not_ne_iff.mp present
      by_cases outTaken : refusal directory (join outputDir offer.name.toList) = none
      · have arrived := incoming_written "closed" (closed_frames_fit library fits)
        have puts := inside (fun _ => none) "closed" _ _ _ arrived
        exact Or.inl (children_iff.mp
          (closed_transfer_puts tempTaken approved fits parsed outTaken puts))
      · -- the transfer that breaks off after the offer has made the temporary file
        have alone : ∀ frame ∈ [(⟨frameFileOffer, payload⟩ : Frame)],
            frame.payload.length ≤ maxFramePayload := List.forall_mem_singleton.mpr fits
        have arrived := incoming_written "closed" alone
        have puts := inside (fun _ => none) "closed" _ _ _ arrived
        rw [receiveFile, arrived, read _ _ _ approved] at puts
        have created : (receiveOffered library ⟨fun _ => none, accept, directory⟩ outputDir offer
            [] (.transfer ("read frame header: " ++ "closed")) Receiver.new).2.ops = _ :=
          offer_alone_creates tempTaken _
        rw [PutsOnly, created] at puts
        exact Or.inr ⟨puts _ List.mem_cons_self _ rfl, outTaken⟩
  · intro allowed faults ended stream frames ending arrived
    have start : PutsOnly (DirectChild outputDir) Receiver.new := List.forall_mem_nil _
    rw [receiveFile, arrived]
    cases approved : accept offer with
    | false =>
      simp only [receiveFrames, ne_eq, not_true_eq_false, if_false, parsed, approved, if_true]
      exact keeps_bind (keeps_puts_frame _ _) (fun _ => keeps_settle _) _ start
    | true =>
      rw [read _ _ _ approved]
      rw [approved] at allowed
      rcases allowed.resolve_left Bool.noConfusion with absent | inside | ⟨child, absent⟩
      · exact keeps_puts_refused frames ending absent _ start
      · have children := children_iff.mpr inside
        exact keeps_puts_offered frames ending children.1 (fun _ => children.2) _ start
      · exact keeps_puts_offered frames ending child (fun taken => absurd taken absent) _ start

end

section

def inbox : List Char := ['i', 'n', 'b', 'o', 'x']

def emptyOffer (name : List Char) : FileOffer :=
  ⟨String.ofList name, 0, hexText digestEmpty.bytes⟩

def reader (name : List Char) : Library := ⟨knownDigests, readsOnly (emptyOffer name)⟩

theorem reader_reads (name : List Char) :
    (reader name).parseOffer (offerJson (emptyOffer name)) = .ok (emptyOffer name) :=
  reads_json (emptyOffer name)

/-- An empty file received into the directory `inbox`, in which nothing is. -/
def receiveEmpty (name : List Char) : Except TransferError TransferResult × Receiver :=
  receiveFile (reader name) (willing inbox) inbox "closed"
    ((sentFrames (reader name) (offerJson (emptyOffer name)) []).flatMap Frame.bytes) Receiver.new

theorem received_paths_inside_notes :
    PutsOnly (DirectChild inbox) (receiveEmpty ['n', 'o', 't', 'e', 's']).2 := by
  have fits : (offerJson (emptyOffer ['n', 'o', 't', 'e', 's'])).length ≤ maxFramePayload := by
    decide
  refine (received_paths_inside_iff (reader ['n', 'o', 't', 'e', 's']) (fun _ => true)
    (freshDirectory inbox) inbox fits (reader_reads _)).mpr
    (Or.inr (Or.inr (Or.inl (Or.inl ?_)))) _ _ _ _ _
    (incoming_written "closed" (closed_frames_fit _ fits))
  change _ ∧ component? (String.ofList ['n', 'o', 't', 'e', 's']).toList = _
  rw [String.toList_ofList]
  decide

/-- The name `./../notes`. -/
def dottedName : List Char := ['.', '/', '.', '.', '/', 'n', 'o', 't', 'e', 's']

/-- A file with that name is put next to the directory. -/
theorem received_path_escapes :
    ¬ PutsOnly (DirectChild inbox) (receiveEmpty dottedName).2 := by
  intro puts
  have fits : (offerJson (emptyOffer dottedName)).length ≤ maxFramePayload := by decide
  have parsed := reader_reads dottedName
  have tempTaken : refusal (freshDirectory inbox)
      (join inbox (tempName (emptyOffer dottedName).name.toList)) = none := by decide
  have children := closed_transfer_puts tempTaken rfl fits parsed (by decide) puts
  rcases children_iff.mp children with single | ⟨_, rest, same, _⟩
  · exact single.1 (by decide)
  · rw [emptyOffer, String.toList_ofList] at same
    cases same

end

end Stitch.Transport.ReceivedPaths
