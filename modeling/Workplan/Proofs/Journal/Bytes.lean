/-
# `Workplan.Proofs.Journal.Bytes` — a journal of any bytes

The file of a journal may hold anything.  Where each of its lines is text, the journal is read as
the events of the lines that hold one, and the other lines do not matter.  The text is decoded
before it is cut into lines, though: one line that is no text, and there is no event at all
(`read_bytes`).
-/
import Workplan.Proofs.Journal.Append

namespace Workplan.Journal

open Text

variable {t : FileTree} {directory : String} {b : ByteArray}

/-- The event that a line of bytes holds. -/
def eventOfBytes? (line : List UInt8) : Option TimedEvent :=
  (decode? line).bind TimedEvent.ofText?

/-- Cut into lines before or after they are decoded, bytes of text hold the same events. -/
theorem filterMap_lineBytes (cs : List Char) :
    (lineBytes (encode cs)).filterMap eventOfBytes? = eventsOf (String.ofList cs) := by
  have hline : eventOfBytes? ∘ encode = TimedEvent.ofText? ∘ String.ofList := by
    funext line
    simp [eventOfBytes?, decode?_encode]
  rw [lineBytes_encode, eventsOf, lines, String.toList_ofList, List.filterMap_map,
    List.filterMap_map, hline]

theorem isSome_decode?_lineBytes (cs : List Char) :
    ∀ line ∈ lineBytes (encode cs), (decode? line).isSome = true := by
  rw [lineBytes_encode, List.forall_mem_map]
  intro line _
  rw [decode?_encode]
  rfl

theorem fromUTF8?_eq_decode? (b : ByteArray) : String.fromUTF8? b = decode? b.data.toList := by
  have hb : b.data.toList.toByteArray = b := ByteArray.ext (by rw [List.data_toByteArray])
  rw [decode?, hb]

/-- Lines that hold no event have no influence as long as they are text; a line that is none hides
all others. -/
theorem read_bytes (h : t.get (path directory) = .ok (.file b)) :
    ((∀ line ∈ lineBytes b.data.toList, (decode? line).isSome = true) →
      read t directory = .ok ((lineBytes b.data.toList).filterMap eventOfBytes?)) ∧
    ((∃ line ∈ lineBytes b.data.toList, decode? line = none) →
      read t directory = .error (.cannotRead (path directory) .notText)) := by
  rw [read_of_file h, fromUTF8?_eq_decode?]
  refine ⟨fun htext => ?_, fun ⟨line, hline, hnone⟩ => ?_⟩
  · obtain ⟨cs, hcs⟩ := exists_encode_of_lines fun line hline => by
      obtain ⟨s, hs⟩ := Option.isSome_iff_exists.mp (htext line hline)
      exact ⟨s.toList, eq_encode_of_decode? hs⟩
    rw [hcs, decode?_encode, filterMap_lineBytes]
  · cases hdecoded : decode? b.data.toList with
    | none => rfl
    | some s =>
        rw [eq_encode_of_decode? hdecoded] at hline
        have hsome := isSome_decode?_lineBytes s.toList line hline
        rw [hnone] at hsome
        cases hsome

/-- A line that is no event, and an event. -/
def noisyBytes : ByteArray := ("scribble\r\n" ++ finish.text ++ "\n").toUTF8

theorem read_bytes_noisy :
    (treeWith noisyBytes).get (path "state") = .ok (.file noisyBytes) ∧
    (∀ line ∈ lineBytes noisyBytes.data.toList, (decode? line).isSome = true) ∧
    read (treeWith noisyBytes) "state" =
      .ok ((lineBytes noisyBytes.data.toList).filterMap eventOfBytes?) := by
  have hdecoded : decode? noisyBytes.data.toList = some ("scribble\r\n" ++ finish.text ++ "\n") := by
    rw [← fromUTF8?_eq_decode?]
    exact fromUTF8?_toUTF8 _
  have htext : ∀ line ∈ lineBytes noisyBytes.data.toList, (decode? line).isSome = true := by
    rw [eq_encode_of_decode? hdecoded]
    exact isSome_decode?_lineBytes _
  exact ⟨get_treeWith noisyBytes, htext, (read_bytes (get_treeWith noisyBytes)).1 htext⟩

/-- A byte that no text holds, on a line of its own, and an event. -/
def strayBytes : ByteArray := ⟨#[0xFF, 10]⟩ ++ (finish.text ++ "\n").toUTF8

/-- One byte takes the rest of the journal away: the line of an event is there, and reading
fails. -/
theorem stray_byte_hides_event :
    (treeWith strayBytes).get (path "state") = .ok (.file strayBytes) ∧
    (lineBytes strayBytes.data.toList).filterMap eventOfBytes? = [finish] ∧
    read (treeWith strayBytes) "state" = .error (.cannotRead (path "state") .notText) := by
  have hlines : (lineBytes strayBytes.data.toList).filterMap eventOfBytes? = [finish] := by
    decide +kernel
  have hnone : decode? strayBytes.data.toList = none := by decide +kernel
  refine ⟨get_treeWith strayBytes, hlines, ?_⟩
  rw [read_of_file (get_treeWith strayBytes), fromUTF8?_eq_decode?, hnone]

end Workplan.Journal
