import BroadcastGuide.Proofs.Calendar.JulianDay
import BroadcastGuide.Proofs.Section.Scan
import BroadcastGuide.Capture
import BroadcastGuide.Main
import BroadcastGuide.Monitor.Session
import BroadcastGuide.Section.Builder
import BroadcastGuide.Proofs.Calendar.Field
import BroadcastGuide.Proofs.Calendar.Limits
import BroadcastGuide.Proofs.Calendar.Duration
import BroadcastGuide.Proofs.Failure
import BroadcastGuide.Proofs.Grabber.Run
import BroadcastGuide.Proofs.Grabber.Totality
import BroadcastGuide.Proofs.Transport.Drain
import BroadcastGuide.Proofs.Transport.Layout
import BroadcastGuide.Proofs.Transport.Reassembly
import BroadcastGuide.Proofs.Transport.Blocks
import BroadcastGuide.Proofs.Transport.Provenance
import BroadcastGuide.Proofs.Checksum
import BroadcastGuide.Proofs.Text.Plain
import BroadcastGuide.Proofs.Section.Builder
import BroadcastGuide.Proofs.Descriptor.Encoding
import BroadcastGuide.Proofs.EventSection
import BroadcastGuide.Proofs.Broadcast
import BroadcastGuide.Proofs.Grabber.RoundTrip
import BroadcastGuide.Proofs.Section.Padding
import BroadcastGuide.Proofs.Versions
import BroadcastGuide.Proofs.Decoder
import BroadcastGuide.Proofs.Grabber.Announcements
import BroadcastGuide.Proofs.Markup
import BroadcastGuide.Proofs.Text.XmlChar
import BroadcastGuide.Proofs.Descriptor.Escaped
import BroadcastGuide.Proofs.Xmltv
import BroadcastGuide.Proofs.Counting
import BroadcastGuide.Proofs.Grabber.Omission
import BroadcastGuide.Proofs.Isolation
import BroadcastGuide.Proofs.Grabber.Accounts
import BroadcastGuide.Proofs.Versions.Greatest
import BroadcastGuide.Proofs.Versions.Serial
import BroadcastGuide.Proofs.Repetition
import BroadcastGuide.Proofs.Outcomes
import BroadcastGuide.Proofs.EventSection.RoundTrip
import BroadcastGuide.Proofs.EventSection.Walk
import BroadcastGuide.Proofs.Descriptor.Layout
import BroadcastGuide.Proofs.Descriptor.Interleaving
import BroadcastGuide.Proofs.Checksum.Detection
import BroadcastGuide.Proofs.Transport.Alignment
import BroadcastGuide.Proofs.Description
import BroadcastGuide.Proofs.Description.Offering
import BroadcastGuide.Proofs.Descriptor.Loop
import BroadcastGuide.Proofs.Section.Capacity
import BroadcastGuide.Proofs.Section.Stub
import BroadcastGuide.Proofs.Transport.Starts
import BroadcastGuide.Proofs.Decoder.Programmes
import BroadcastGuide.Proofs.Text.Normalized
import BroadcastGuide.Proofs.Text.Unicode
import BroadcastGuide.Proofs.Decoder.Unknown
import BroadcastGuide.Proofs.Text.Latin
import BroadcastGuide.Proofs.Calendar.Days
import BroadcastGuide.Proofs.Xmltv.TimeStamp
import BroadcastGuide.Proofs.Transport.Stray
import BroadcastGuide.Proofs.Xmltv.Document
import BroadcastGuide.Proofs.Transport.Packet
import BroadcastGuide.Proofs.Section.Balance
import BroadcastGuide.Proofs.Text.Words
import BroadcastGuide.Proofs.Numeral.Literal
import BroadcastGuide.Proofs.Channels
