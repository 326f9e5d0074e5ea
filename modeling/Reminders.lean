import Reminders.Text.Space
import Reminders.Text.Decimal
import Reminders.Text.Quoted
import Reminders.Number.Word
import Reminders.Number.Shortest
import Reminders.Json.Token
import Reminders.Json.Reader
import Reminders.Json.Printer
import Reminders.Json.Record
import Reminders.Time.Written
import Reminders.Recurrence
import Reminders.Bundle
import Reminders.Slot.Argument
import Reminders.Slot.Registry
import Reminders.Notification.Basic
import Reminders.Reminder.Written
import Reminders.Quiet
import Reminders.Schedule.Dump
import Reminders.Schedule.Written
import Reminders.Permission
import Reminders.Engine
import Reminders.Dialog
import Reminders.Dump
import Reminders.Main
import Reminders.Proofs.Batch
import Reminders.Proofs.Upkeep
import Reminders.Proofs.Survival
import Reminders.Proofs.Cap
import Reminders.Proofs.Screen
import Reminders.Proofs.Notices
import Reminders.Proofs.Calls
import Reminders.Proofs.Display
import Reminders.Proofs.Orphans
import Reminders.Proofs.Calendar
import Reminders.Proofs.Occurrence
import Reminders.Proofs.Restart
import Reminders.Proofs.Saved
import Reminders.Proofs.Ids
import Reminders.Proofs.Recurring
import Reminders.Proofs.Spared
import Reminders.Proofs.Restricted
import Reminders.Proofs.Settled
import Reminders.Proofs.Refused
import Reminders.Proofs.ServiceRun
import Reminders.Proofs.Mirror
import Reminders.Proofs.Verdict
import Reminders.Proofs.Muted
import Reminders.Proofs.Answers
import Reminders.Proofs.NextRing
import Reminders.Proofs.Accepted
import Reminders.Proofs.Dismissed
import Reminders.Proofs.ClockSet
import Reminders.Proofs.Namesakes
import Reminders.Proofs.Budget
import Reminders.Proofs.Hushed
import Reminders.Proofs.QuietWindow
import Reminders.Proofs.ToTheMinute
import Reminders.Proofs.TimeOfRing
import Reminders.Proofs.FirstRing
import Reminders.Proofs.SlotBatch
import Reminders.Proofs.DottedKeys
import Reminders.Proofs.AddedFields
import Reminders.Proofs.RequestRecords
import Reminders.Proofs.LooseSlots
import Reminders.Proofs.Grouped
