import StartPage.BringUp
import StartPage.Browser.Document
import StartPage.Browser.Run
import StartPage.Browser.Session
import StartPage.Browser.World
import StartPage.Clock
import StartPage.ClockUpdater
import StartPage.Config.Basic
import StartPage.Config.Text
import StartPage.Decimal
import StartPage.Greeting
import StartPage.Json.Fault
import StartPage.Json.Number
import StartPage.Json.Printer
import StartPage.Json.Reader
import StartPage.Json.Record
import StartPage.Json.Skip
import StartPage.Json.Str
import StartPage.Json.Typed
import StartPage.Key
import StartPage.LocalTime
import StartPage.Log
import StartPage.Page.Basic
import StartPage.Page.Run
import StartPage.Proofs.Clock
import StartPage.Proofs.SearchEngine
import StartPage.Proofs.Text.Digits
import StartPage.SearchEngine
import StartPage.Selector
import StartPage.Surface
import StartPage.Text.Blank
import StartPage.Text.Digits
import StartPage.Text.Quoted
import StartPage.Text.Split
import StartPage.Text.Unprintable
import StartPage.Text.Utf8
import StartPage.Url.Basic
import StartPage.Url.Break
import StartPage.Url.Domain
import StartPage.Url.Form
import StartPage.Url.Host
import StartPage.Url.Ipv4
import StartPage.Url.Ipv6
import StartPage.Url.Parser
import StartPage.Url.Path
import StartPage.Url.Percent
import StartPage.Url.Punycode
import StartPage.Proofs.Json.Reads
import StartPage.Proofs.Json.Record
import StartPage.Proofs.Config.RoundTrip
import StartPage.Proofs.Browser.Action
import StartPage.Proofs.Browser.Session
import StartPage.Proofs.Browser.Run
import StartPage.Proofs.Browser.Registration
import StartPage.Proofs.Browser.Document
import StartPage.Proofs.Browser.Service
import StartPage.Proofs.Browser.Refinement
import StartPage.Proofs.Page.Basic
import StartPage.Proofs.Browser.Failure
import StartPage.Proofs.Page.History
import StartPage.Proofs.Url.Redirect
import StartPage.Proofs.Json.Answer
import StartPage.Proofs.Json.Grammar
import StartPage.Proofs.Json.Number
import StartPage.Proofs.Json.Skip
import StartPage.Proofs.Json.Decode
import StartPage.Proofs.Json.Members
import StartPage.Proofs.Config.Meaning
import StartPage.Proofs.Config.Validity
import StartPage.Proofs.Browser.Release
import StartPage.Proofs.Browser.Admission
import StartPage.Proofs.Browser.Request
import StartPage.Proofs.Browser.HandOver
import StartPage.Proofs.Url.Percent
import StartPage.Proofs.Url.Written
import StartPage.Proofs.Url.Reparse
import StartPage.Proofs.Key
import StartPage.Proofs.Text.Blank
import StartPage.Proofs.Config.Effective
import StartPage.Proofs.Browser.Lifecycle
import StartPage.Proofs.Browser.Links
import StartPage.Proofs.Browser.Teardown
import StartPage.Proofs.Browser.Kept
import StartPage.Proofs.Config.Interval
import StartPage.Proofs.Browser.Interval
import StartPage.Proofs.ClockUpdater
import StartPage.Proofs.Page.Surface
import StartPage.Proofs.Greeting
import StartPage.Proofs.Page.Day
import StartPage.Proofs.Text.Order
import StartPage.Proofs.LocalTime.Order
import StartPage.Proofs.Config.Padding
import StartPage.Proofs.Page.Name
