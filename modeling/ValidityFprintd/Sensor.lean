import ValidityFprintd.Checked
import ValidityFprintd.CaptureProgram
import ValidityFprintd.Usb

/-! What the driver asks a sensor about itself, and the tables it chooses the sensor's geometry
and capture program from. -/

namespace ValidityFprintd.Sensor
open Effect Timeslot

variable {S : Type}

/-- `{:#x}`. -/
def hexPlain (n : Nat) : String := "0x" ++ String.ofList (Nat.toDigits 16 n)

structure RomInfo where
  timestamp : UInt32
  build : UInt32
  major : UInt32
  minor : UInt32
  product : UInt32
  u1 : UInt32
  deriving DecidableEq

structure DeviceInfo where
  major : UInt32
  devType : UInt32
  version : UInt32
  versionMask : UInt32
  name : String
  deriving DecidableEq

/-- A row of the geometry table. -/
structure SensorTypeRow extends SensorTypeInfo where
  sensorType : UInt32
  bytesPerLine : UInt32

structure SensorCaptureProg where
  major : UInt32
  minor : UInt32
  build : UInt32
  u1 : UInt32
  devType : UInt32
  a0 : UInt32
  a1 : UInt32
  blobs : List Bytes

def calibrationBlobDb : Bytes :=
  [0x10, 0x11, 0x12, 0x13, 0x14, 0x15, 0x16, 0x17, 0x18, 0x19, 0x1a, 0x1b, 0x1c, 0x1d, 0x1e, 0x1f,
    0x20, 0x21, 0x22, 0x23, 0x24, 0x25, 0x26, 0x27, 0x28, 0x29, 0x2a, 0x2b, 0x2c, 0x2d, 0x2e, 0x2f,
    0x30, 0x31, 0x32, 0x33, 0x34, 0x35, 0x36, 0x37, 0x38, 0x39, 0x3a, 0x3b, 0x3c, 0x3d, 0x3e, 0x3f,
    0x40, 0x41, 0x42, 0x43, 0x44, 0x45, 0x46, 0x47, 0x48, 0x49, 0x4a, 0x4b, 0x4c, 0x4d, 0x4e, 0x4f,
    0x50, 0x51, 0x52, 0x53, 0x54, 0x55, 0x56, 0x57, 0x58, 0x59, 0x5a, 0x5b, 0x5c, 0x5d, 0x5e, 0x5f,
    0x60, 0x61, 0x62, 0x63, 0x64, 0x65, 0x66, 0x67, 0x68, 0x69, 0x6a, 0x6b, 0x6c, 0x6d, 0x6e, 0x6f,
    0x70, 0x71, 0x72, 0x73, 0x74, 0x75, 0x76, 0x77, 0x78, 0x79, 0x7a, 0x7b, 0x7c, 0x7d, 0x7e, 0x7f,
    0x80, 0x81, 0x82, 0x83, 0x84, 0x85, 0x86, 0x87, 0x88, 0x89, 0x8a, 0x8b, 0x8c, 0x8d, 0x8e, 0x8f,
    0x90, 0x91, 0x92, 0x93, 0x94, 0x95, 0x96, 0x97, 0x98, 0x99, 0x9a, 0x9b, 0x9c, 0x9d, 0x9e, 0x9f]

def calibrationBlob199 : Bytes :=
  [0x9b, 0x9a, 0x99, 0x97, 0x96, 0x95, 0x93, 0x92, 0x91, 0x8f, 0x8e, 0x8d, 0x8b, 0x8a, 0x89, 0x87,
    0x86, 0x85, 0x83, 0x82, 0x81, 0x7f, 0x7e, 0x7d, 0x7b, 0x7a, 0x79, 0x77, 0x76, 0x75, 0x73, 0x72,
    0x71, 0x6f, 0x6e, 0x6d, 0x6b, 0x6a, 0x69, 0x67, 0x66, 0x65, 0x63, 0x62, 0x61, 0x5f, 0x5e, 0x5d,
    0x5b, 0x5a, 0x59, 0x57, 0x56, 0x55, 0x52, 0x51, 0x50, 0x4e, 0x4d, 0x4c, 0x4a, 0x49, 0x48, 0x46,
    0x45, 0x44, 0x42, 0x41, 0x40, 0x3e, 0x3d, 0x3c, 0x3a, 0x39, 0x38, 0x36, 0x35, 0x34, 0x32, 0x31,
    0x30, 0x2e, 0x2d, 0x2c, 0x2a, 0x29, 0x28, 0x26, 0x25, 0x24, 0x22, 0x21, 0x20, 0x1e, 0x1d, 0x1c,
    0x1a, 0x19, 0x18, 0x16, 0x15, 0x14, 0x12, 0x11, 0x10, 0x0e, 0x0d, 0x0c, 0x0a, 0x09, 0x08, 0x06]

/-- The rows of the two supported families; no other is ever asked for. -/
def sensorTypeTable : List SensorTypeRow :=
  [{ sensorType := 0x00db
     bytesPerLine := 0x98
     repeatMultiplier := 1
     linesPerCalibrationData := 144
     lineWidth := 144
     calibrationBlob := calibrationBlobDb },
   { sensorType := 0x0199
     bytesPerLine := 0x78
     repeatMultiplier := 2
     linesPerCalibrationData := 112
     lineWidth := 112
     calibrationBlob := calibrationBlob199 }]

def blobs199 : List Bytes :=
  [[0x23, 0x00, 0x00, 0x00, 0x20, 0x00, 0x08, 0x00, 0x00, 0x20, 0x00, 0x80, 0x00, 0x00, 0x01, 0x00,
    0x32, 0x00, 0x74, 0x00, 0x00, 0x00, 0x00, 0x80, 0x20, 0x20, 0x04, 0x00, 0x24, 0x20, 0x00, 0x00,
    0x50, 0x20, 0x77, 0x36, 0x28, 0x20, 0x01, 0x00, 0x30, 0x20, 0x01, 0x00, 0x3c, 0x20, 0x80, 0x00,
    0x08, 0x21, 0x38, 0x00, 0x0c, 0x21, 0x00, 0x00, 0x48, 0x21, 0x07, 0x00, 0x4c, 0x21, 0x00, 0x00,
    0x58, 0x20, 0x00, 0x00, 0x5c, 0x20, 0x00, 0x00, 0x60, 0x20, 0x00, 0x00, 0x68, 0x20, 0x05, 0x00,
    0x6c, 0x20, 0x01, 0x49, 0x70, 0x20, 0x01, 0x41, 0x74, 0x20, 0x01, 0x88, 0x78, 0x20, 0x01, 0x80,
    0x84, 0x20, 0x20, 0x00, 0x94, 0x20, 0x01, 0x80, 0x9c, 0x20, 0x09, 0x02, 0xa0, 0x20, 0x0b, 0x19,
    0xb4, 0x20, 0x03, 0x00, 0xb8, 0x20, 0x3b, 0x04, 0xbc, 0x20, 0x14, 0x00, 0xc0, 0x20, 0x02, 0x00,
    0xc4, 0x20, 0x01, 0x00, 0xc8, 0x20, 0x02, 0x00, 0x33, 0x00, 0x10, 0x00, 0x00, 0x00, 0x00, 0x80,
    0xcc, 0x20, 0x00, 0x00, 0xf5, 0x03, 0xd0, 0x20, 0x00, 0x00, 0xa1, 0x01, 0x32, 0x00, 0x44, 0x00,
    0x00, 0x00, 0x00, 0x80, 0xdc, 0x20, 0xe8, 0x03, 0xe0, 0x20, 0x64, 0x01, 0xe4, 0x20, 0xd0, 0x02,
    0xe8, 0x20, 0x00, 0x01, 0xf0, 0x20, 0x05, 0x00, 0xf8, 0x20, 0x05, 0x00, 0xfc, 0x20, 0x00, 0x00,
    0xb8, 0x20, 0x3a, 0x00, 0x00, 0x08, 0x04, 0x00, 0x14, 0x08, 0x00, 0x00, 0x08, 0x08, 0x00, 0x00,
    0x08, 0x08, 0x00, 0x00, 0x14, 0x08, 0x30, 0x00, 0x08, 0x08, 0x00, 0x00, 0x14, 0x08, 0x31, 0x00,
    0x1c, 0x08, 0x1a, 0x00],
   [0x32, 0x00, 0x0c, 0x00, 0x00, 0x00, 0x00, 0x80, 0x50, 0x11, 0x01, 0x00, 0x4c, 0x11, 0x1e, 0x00,
    0x34, 0x00, 0x78, 0x01, 0x00, 0x00, 0x00, 0x00, 0x00, 0x00, 0x00, 0x00, 0x00, 0x00, 0x00, 0x00,
    0x00, 0x00, 0x00, 0x00, 0x00, 0x00, 0x00, 0x00, 0x00, 0x00, 0x00, 0x00, 0x00, 0x00, 0x00, 0x00,
    0x00, 0x00, 0x00, 0x00, 0x00, 0x00, 0x00, 0x00, 0x00, 0x00, 0x00, 0x00, 0x00, 0x00, 0x00, 0x00,
    0x00, 0x00, 0x00, 0x00, 0x00, 0x00, 0x00, 0x00, 0x00, 0x00, 0x00, 0x00, 0x00, 0x00, 0x00, 0x00,
    0x00, 0x00, 0x00, 0x00, 0x00, 0x00, 0x00, 0x00, 0x00, 0x00, 0x00, 0x00, 0x00, 0x00, 0x00, 0x00,
    0x00, 0x00, 0x00, 0x00, 0x00, 0x00, 0x00, 0x00, 0x00, 0x00, 0x00, 0x00, 0x00, 0x00, 0x00, 0x00,
    0x00, 0x00, 0x00, 0x00, 0x00, 0x00, 0x00, 0x00, 0x00, 0x00, 0x00, 0x00, 0x00, 0x00, 0x00, 0x00,
    0x00, 0x00, 0x00, 0x00, 0x10, 0x22, 0x17, 0x10, 0x22, 0x17, 0x10, 0x22, 0x16, 0x10, 0x22, 0x16,
    0x10, 0x22, 0x16, 0x01, 0x06, 0x50, 0x10, 0x25, 0x01, 0x01, 0x00, 0x00, 0x07, 0xc8, 0x07, 0x8c,
    0x06, 0xff, 0x00, 0x00, 0x00, 0x00, 0x00, 0x00, 0x4f, 0x80, 0x00, 0x6d, 0x03, 0x00, 0x28, 0x03,
    0x07, 0x03, 0x09, 0x90, 0x09, 0x8d, 0xb0, 0x0b, 0x90, 0x88, 0x09, 0x91, 0x85, 0x8e, 0x08, 0xc1,
    0x81, 0x0b, 0x91, 0x90, 0x91, 0x0a, 0xc1, 0xb8, 0x92, 0x8a, 0x09, 0x93, 0x87, 0x8a, 0x89, 0x0b,
    0x93, 0x88, 0x89, 0x89, 0x08, 0xc8, 0x81, 0x91, 0x89, 0x0a, 0xc8, 0x88, 0x92, 0x89, 0x09, 0x9a,
    0x81, 0x8a, 0x89, 0x0b, 0x9a, 0x88, 0x89, 0x89, 0x08, 0xd0, 0x81, 0x91, 0x89, 0x0a, 0xd0, 0x88,
    0x92, 0x89, 0x08, 0x02, 0x81, 0x8a, 0x09, 0x5a, 0x81, 0x0a, 0x02, 0x88, 0x89, 0x0b, 0x5a, 0x88,
    0x08, 0xd9, 0x81, 0x89, 0x89, 0x0a, 0xd9, 0x90, 0x89, 0x89, 0x09, 0x5e, 0x82, 0x89, 0x89, 0x0b,
    0x5e, 0x88, 0x89, 0x89, 0x08, 0xe1, 0x81, 0x89, 0x89, 0x0a, 0xe1, 0x90, 0x89, 0x89, 0x09, 0x64,
    0x82, 0x89, 0x89, 0x0b, 0x64, 0x88, 0x89, 0x09, 0x6e, 0x81, 0x08, 0xe9, 0x81, 0x89, 0x0b, 0x6e,
    0x88, 0x0a, 0xe9, 0x90, 0x91, 0xb9, 0x09, 0x6f, 0x82, 0x8a, 0x8f, 0x0b, 0x6f, 0x88, 0x91, 0x89,
    0x08, 0xf0, 0x81, 0x8a, 0x89, 0x0a, 0xf0, 0x90, 0x89, 0x89, 0x09, 0x76, 0x82, 0x89, 0x91, 0x0b,
    0x76, 0xb8, 0x91, 0x8a, 0x08, 0xf8, 0x87, 0x92, 0x91, 0x0a, 0xf8, 0x88, 0x8a, 0x92, 0x09, 0x7c,
    0x81, 0x89, 0x8a, 0x0b, 0x7c, 0x09, 0x01, 0x80, 0x89, 0x89, 0x0b, 0x01, 0x88, 0x89, 0x91, 0x09,
    0x7f, 0x81, 0x89, 0x92, 0x0b, 0x7f, 0x09, 0x08, 0x80, 0x89, 0x92, 0x0b, 0x08, 0x88, 0x89, 0x92,
    0x0c, 0x07, 0x03, 0x03, 0x07, 0x20, 0x04, 0x02, 0x00, 0x00, 0x00, 0x00, 0x2f, 0x00, 0x04, 0x00,
    0x70, 0x00, 0x00, 0x00, 0x29, 0x00, 0x04, 0x00, 0x70, 0x00, 0x00, 0x00, 0x35, 0x00, 0x04, 0x00,
    0x80, 0x00, 0x00, 0x00]]

def blobsDb : List Bytes :=
  [[0x23, 0x00, 0x00, 0x00, 0x20, 0x00, 0x08, 0x00, 0x00, 0x20, 0x00, 0x80, 0x00, 0x00, 0x01, 0x00,
    0x32, 0x00, 0x70, 0x00, 0x00, 0x00, 0x00, 0x80, 0x20, 0x20, 0x05, 0x00, 0x24, 0x20, 0x00, 0x00,
    0x50, 0x20, 0x77, 0x36, 0x28, 0x20, 0x01, 0x00, 0x30, 0x20, 0x01, 0x00, 0x08, 0x21, 0x70, 0x00,
    0x0c, 0x21, 0x00, 0x00, 0x48, 0x21, 0x02, 0x00, 0x4c, 0x21, 0x00, 0x00, 0x58, 0x20, 0x00, 0x00,
    0x5c, 0x20, 0x00, 0x00, 0x60, 0x20, 0x00, 0x00, 0x68, 0x20, 0x05, 0x00, 0x6c, 0x20, 0x01, 0x29,
    0x70, 0x20, 0x01, 0x21, 0x74, 0x20, 0x01, 0x88, 0x78, 0x20, 0x01, 0x80, 0x84, 0x20, 0x20, 0x00,
    0x94, 0x20, 0x01, 0x80, 0x9c, 0x20, 0x09, 0x02, 0xa0, 0x20, 0x0b, 0x19, 0xb4, 0x20, 0x00, 0x00,
    0xb8, 0x20, 0x3b, 0x04, 0xbc, 0x20, 0x14, 0x00, 0xc0, 0x20, 0x02, 0x00, 0xc4, 0x20, 0x01, 0x00,
    0xc8, 0x20, 0x02, 0x00, 0x33, 0x00, 0x10, 0x00, 0x00, 0x00, 0x00, 0x80, 0xcc, 0x20, 0x00, 0x00,
    0xf5, 0x03, 0xd0, 0x20, 0x00, 0x00, 0xa1, 0x01, 0x32, 0x00, 0x44, 0x00, 0x00, 0x00, 0x00, 0x80,
    0xdc, 0x20, 0xe8, 0x03, 0xe0, 0x20, 0x64, 0x01, 0xe4, 0x20, 0xd0, 0x02, 0xe8, 0x20, 0x00, 0x01,
    0xf0, 0x20, 0x05, 0x00, 0xf8, 0x20, 0x05, 0x00, 0xfc, 0x20, 0x00, 0x00, 0xb8, 0x20, 0x3b, 0x00,
    0x00, 0x08, 0x04, 0x00, 0x14, 0x08, 0x00, 0x00, 0x08, 0x08, 0x00, 0x00, 0x08, 0x08, 0x00, 0x00,
    0x14, 0x08, 0x30, 0x00, 0x08, 0x08, 0x00, 0x00, 0x14, 0x08, 0x31, 0x00, 0x1c, 0x08, 0x1a, 0x00],
   [0x32, 0x00, 0x0c, 0x00, 0x00, 0x00, 0x00, 0x80, 0x50, 0x11, 0x01, 0x00, 0x4c, 0x11, 0x26, 0x00,
    0x34, 0x00, 0x08, 0x03, 0x10, 0x06, 0x1d, 0x10, 0x06, 0x1d, 0x10, 0x06, 0x1d, 0x10, 0x06, 0x1d,
    0x10, 0x06, 0x1c, 0x01, 0x06, 0x58, 0x10, 0x08, 0x01, 0x01, 0x00, 0x00, 0x07, 0xc8, 0x07, 0x8c,
    0x06, 0x10, 0x00, 0x00, 0x20, 0x4f, 0x80, 0x00, 0x7f, 0x00, 0x00, 0x03, 0x07, 0x01, 0x07, 0x01,
    0x0c, 0x07, 0x03, 0x2c, 0x08, 0xfc, 0x80, 0x09, 0x5a, 0x80, 0x0a, 0xfc, 0x08, 0xfb, 0x80, 0x0b,
    0x5a, 0x09, 0x5b, 0x80, 0x0a, 0xfb, 0x08, 0xfa, 0x80, 0x0b, 0x5b, 0x09, 0x5c, 0x80, 0x0a, 0xfa,
    0x08, 0xf9, 0x80, 0x0b, 0x5c, 0x09, 0x5d, 0x80, 0x0a, 0xf9, 0x08, 0xf8, 0x80, 0x0b, 0x5d, 0x09,
    0x5e, 0x80, 0x0a, 0xf8, 0x08, 0xf7, 0x80, 0x0b, 0x5e, 0x09, 0x5f, 0x80, 0x0a, 0xf7, 0x08, 0xf6,
    0x80, 0x0b, 0x5f, 0x09, 0x60, 0x80, 0x0a, 0xf6, 0x08, 0xf5, 0x80, 0x0b, 0x60, 0x09, 0x61, 0x80,
    0x0a, 0xf5, 0x08, 0xf4, 0x80, 0x0b, 0x61, 0x09, 0x62, 0x80, 0x0a, 0xf4, 0x08, 0xf3, 0x80, 0x0b,
    0x62, 0x09, 0x63, 0x80, 0x0a, 0xf3, 0x08, 0xf2, 0x80, 0x0b, 0x63, 0x09, 0x64, 0x80, 0x0a, 0xf2,
    0x08, 0xf1, 0x80, 0x0b, 0x64, 0x09, 0x65, 0x80, 0x0a, 0xf1, 0x08, 0xf0, 0x80, 0x0b, 0x65, 0x09,
    0x66, 0x80, 0x0a, 0xf0, 0x08, 0xef, 0x80, 0x0b, 0x66, 0x09, 0x67, 0x80, 0x0a, 0xef, 0x08, 0xee,
    0x80, 0x0b, 0x67, 0x09, 0x68, 0x80, 0x0a, 0xee, 0x08, 0xed, 0x80, 0x0b, 0x68, 0x09, 0x6c, 0x80,
    0x0a, 0xed, 0x08, 0xec, 0x80, 0x0b, 0x6c, 0x09, 0x6d, 0x80, 0x0a, 0xec, 0x08, 0xeb, 0x80, 0x0b,
    0x6d, 0x09, 0x6e, 0x80, 0x0a, 0xeb, 0x08, 0xea, 0x80, 0x0b, 0x6e, 0x09, 0x6f, 0x80, 0x0a, 0xea,
    0x08, 0xe9, 0x80, 0x0b, 0x6f, 0x09, 0x70, 0x80, 0x0a, 0xe9, 0x08, 0xe8, 0x80, 0x0b, 0x70, 0x09,
    0x71, 0x80, 0x0a, 0xe8, 0x08, 0xe7, 0x80, 0x0b, 0x71, 0x09, 0x72, 0x80, 0x0a, 0xe7, 0x08, 0xe6,
    0x80, 0x0b, 0x72, 0x09, 0x73, 0x80, 0x0a, 0xe6, 0x08, 0xe5, 0x80, 0x0b, 0x73, 0x09, 0x74, 0x80,
    0x0a, 0xe5, 0x08, 0xe4, 0x80, 0x0b, 0x74, 0x09, 0x75, 0x80, 0x0a, 0xe4, 0x08, 0xe3, 0x80, 0x0b,
    0x75, 0x09, 0x76, 0x80, 0x0a, 0xe3, 0x08, 0xe2, 0x80, 0x0b, 0x76, 0x09, 0x77, 0x80, 0x0a, 0xe2,
    0x08, 0xe1, 0x80, 0x0b, 0x77, 0x09, 0x78, 0x80, 0x0a, 0xe1, 0x08, 0xe0, 0x80, 0x0b, 0x78, 0x09,
    0x79, 0x80, 0x0a, 0xe0, 0x08, 0xdf, 0x80, 0x0b, 0x79, 0x09, 0x7a, 0x80, 0x0a, 0xdf, 0x08, 0xde,
    0x80, 0x0b, 0x7a, 0x09, 0x7b, 0x80, 0x0a, 0xde, 0x08, 0xdd, 0x80, 0x0b, 0x7b, 0x09, 0x7c, 0x80,
    0x0a, 0xdd, 0x08, 0xdc, 0x80, 0x0b, 0x7c, 0x09, 0x7d, 0x80, 0x0a, 0xdc, 0x08, 0xdb, 0x80, 0x0b,
    0x7d, 0x09, 0x7e, 0x80, 0x0a, 0xdb, 0x08, 0xda, 0x80, 0x0b, 0x7e, 0x09, 0x7f, 0x80, 0x0a, 0xda,
    0x08, 0xd9, 0x80, 0x0b, 0x7f, 0x09, 0x80, 0x80, 0x0a, 0xd9, 0x08, 0xd8, 0x80, 0x0b, 0x80, 0x09,
    0x81, 0x80, 0x0a, 0xd8, 0x08, 0xd7, 0x80, 0x0b, 0x81, 0x09, 0x82, 0x80, 0x0a, 0xd7, 0x08, 0xd6,
    0x80, 0x0b, 0x82, 0x09, 0x83, 0x80, 0x0a, 0xd6, 0x08, 0xd5, 0x80, 0x0b, 0x83, 0x09, 0x84, 0x80,
    0x0a, 0xd5, 0x08, 0xd4, 0x80, 0x0b, 0x84, 0x09, 0x85, 0x80, 0x0a, 0xd4, 0x08, 0xd3, 0x80, 0x0b,
    0x85, 0x09, 0x86, 0x80, 0x0a, 0xd3, 0x08, 0xd2, 0x80, 0x0b, 0x86, 0x09, 0x87, 0x80, 0x0a, 0xd2,
    0x08, 0xd1, 0x80, 0x0b, 0x87, 0x09, 0x88, 0x80, 0x0a, 0xd1, 0x08, 0xd0, 0x80, 0x0b, 0x88, 0x09,
    0x89, 0x80, 0x0a, 0xd0, 0x08, 0xcf, 0x80, 0x0b, 0x89, 0x09, 0x8a, 0x80, 0x0a, 0xcf, 0x08, 0xce,
    0x80, 0x0b, 0x8a, 0x09, 0x8b, 0x80, 0x0a, 0xce, 0x08, 0xcd, 0x80, 0x0b, 0x8b, 0x09, 0x8c, 0x80,
    0x0a, 0xcd, 0x08, 0xcc, 0x80, 0x0b, 0x8c, 0x09, 0x8d, 0x80, 0x0a, 0xcc, 0x08, 0xcb, 0x80, 0x0b,
    0x8d, 0x09, 0x8e, 0x80, 0x0a, 0xcb, 0x08, 0xca, 0x80, 0x0b, 0x8e, 0x09, 0x8f, 0x80, 0x0a, 0xca,
    0x08, 0xc9, 0x80, 0x0b, 0x8f, 0x09, 0x90, 0x80, 0x0a, 0xc9, 0x08, 0xc8, 0x80, 0x0b, 0x90, 0x09,
    0x91, 0x80, 0x0a, 0xc8, 0x08, 0xc7, 0x80, 0x0b, 0x91, 0x09, 0x92, 0x80, 0x0a, 0xc7, 0x08, 0xc6,
    0x80, 0x0b, 0x92, 0x09, 0x93, 0x80, 0x0a, 0xc6, 0x08, 0xc5, 0x80, 0x0b, 0x93, 0x09, 0x94, 0x80,
    0x0a, 0xc5, 0x08, 0xc4, 0x80, 0x0b, 0x94, 0x09, 0x95, 0x80, 0x0a, 0xc4, 0x08, 0xc3, 0x80, 0x0b,
    0x95, 0x09, 0x96, 0x80, 0x0a, 0xc3, 0x08, 0xc2, 0x80, 0x0b, 0x96, 0x09, 0x97, 0x80, 0x0a, 0xc2,
    0x08, 0xc1, 0x80, 0x0b, 0x97, 0x09, 0x98, 0x80, 0x0a, 0xc1, 0x08, 0xc0, 0x80, 0x0b, 0x98, 0x09,
    0x99, 0x80, 0x0a, 0xc0, 0x08, 0xbf, 0x80, 0x0b, 0x99, 0x09, 0x9a, 0x80, 0x0a, 0xbf, 0x08, 0xbe,
    0x80, 0x0b, 0x9a, 0x09, 0x9b, 0x80, 0x0a, 0xbe, 0x08, 0xbd, 0x80, 0x0b, 0x9b, 0x09, 0x9c, 0x80,
    0x0a, 0xbd, 0x08, 0xbc, 0x80, 0x0b, 0x9c, 0x09, 0x9d, 0x80, 0x0a, 0xbc, 0x08, 0xbb, 0x80, 0x0b,
    0x9d, 0x09, 0x9e, 0x80, 0x0a, 0xbb, 0x08, 0xba, 0x80, 0x0b, 0x9e, 0x09, 0x9f, 0x80, 0x0a, 0xba,
    0x08, 0xb9, 0x80, 0x0b, 0x9f, 0x09, 0xa0, 0x80, 0x0a, 0xb9, 0x08, 0xb8, 0x80, 0x0b, 0xa0, 0x08,
    0x01, 0x80, 0x0a, 0xb8, 0x08, 0xb7, 0x80, 0x0a, 0x01, 0x08, 0x02, 0x80, 0x0a, 0xb7, 0x08, 0xb6,
    0x80, 0x0a, 0x02, 0x08, 0x03, 0x80, 0x0a, 0xb6, 0x08, 0xb5, 0x80, 0x0a, 0x03, 0x08, 0x04, 0x80,
    0x20, 0x03, 0x07, 0x04, 0x04, 0x02, 0x00, 0x00, 0x00, 0x00, 0x00, 0x00, 0x2f, 0x00, 0x04, 0x00,
    0x90, 0x00, 0x00, 0x00, 0x29, 0x00, 0x04, 0x00, 0x00, 0x00, 0x00, 0x00, 0x35, 0x00, 0x04, 0x00,
    0x10, 0x00, 0x00, 0x00]]

/-- The rows of the two supported families: those of other device types are passed over. -/
def captureProgTable : List SensorCaptureProg :=
  [{ major := 0x6
     minor := 0x0
     build := 0x0
     u1 := 0x0
     devType := 0x199
     a0 := 0x18
     a1 := 0x19
     blobs := blobs199 },
   { major := 0x6
     minor := 0x0
     build := 0x0
     u1 := 0x0
     devType := 0xdb
     a0 := 0x18
     a1 := 0x19
     blobs := blobsDb }]

/-- Matches anything in a table, but scores lower than an exact match. -/
def wildcard : UInt32 := 0xffff

def fuzzy (expected actual : UInt32) : UInt32 :=
  if expected = actual then 2 else if expected = wildcard then 1 else 0

/-- Rank a row against the ROM version: the more significant fields dominate. -/
def metric (row : SensorCaptureProg) (rom : RomInfo) : UInt32 :=
  let m := fuzzy row.major rom.major
  let m := m <<< 2 ||| fuzzy row.minor rom.minor
  let m := m <<< 2 ||| fuzzy row.build rom.build
  m <<< 2 ||| fuzzy row.u1 rom.u1

def sensorTypeInfo (sensorType : UInt32) : Option SensorTypeRow :=
  sensorTypeTable.find? fun row => row.sensorType = sensorType

def applies (rom : RomInfo) (sensorType a0 a1 : UInt32) (row : SensorCaptureProg) : Bool :=
  (row.major = wildcard ∨ row.major = rom.major) ∧
    (row.devType = wildcard ∨ row.devType = sensorType) ∧
    (row.a0 = wildcard ∨ row.a0 = a0) ∧ (row.a1 = wildcard ∨ row.a1 = a1)

def scoreOf (best : Option (SensorCaptureProg × UInt32)) : UInt32 :=
  match best with
  | some (_, m) => m
  | none => 0

def captureProg (rom : RomInfo) (sensorType a0 a1 : UInt32) : Option Bytes :=
  let best := captureProgTable.foldl (fun best row =>
    if applies rom sensorType a0 a1 row then
      if scoreOf best < metric row rom then some (row, metric row rom) else best
    else best) none
  best.map fun (row, _) => row.blobs.flatten

/-- A masked version of zero, or a query for version zero, is only a fallback; an exact match
wins outright. -/
def devInfoFrom (major ver : UInt32) : List DeviceInfo → Option DeviceInfo → Option DeviceInfo
  | [], fuzzyMatch => fuzzyMatch
  | i :: rest, fuzzyMatch =>
    if i.major ≠ major then devInfoFrom major ver rest fuzzyMatch
    else
      let masked := i.version &&& i.versionMask
      if ver = 0 ∨ masked = 0 then devInfoFrom major ver rest (some i)
      else if ver = masked then some i
      else devInfoFrom major ver rest fuzzyMatch

def devInfoLookup (devices : List DeviceInfo) (major ver : UInt32) : Option DeviceInfo :=
  devInfoFrom major ver devices none

def parseRomInfo (b : Bytes) : Outcome String RomInfo := do
  Outcome.bailIf (b.length < 0x10) s!"ROM info reply too short ({b.length} bytes)"
  let timestamp ← Bytes.rd32 b 0
  let build ← Bytes.rd32 b 4
  let major ← Bytes.byteAt b 8
  let minor ← Bytes.byteAt b 9
  let product ← Bytes.byteAt b 11
  let u1 ← Bytes.byteAt b 15
  .ok ⟨timestamp, build, major.toUInt32, minor.toUInt32, product.toUInt32, u1.toUInt32⟩

def romInfo (w : Usb.World S) : Usb.Drv S RomInfo := do
  let rsp ← Usb.request w [0x01] "ROM info command (0x01)"
  let b ← Act.ofOutcome (Checked.sliceFrom rsp 2)
  Act.ofOutcome (parseRomInfo b)

def parseIdentify (devices : List DeviceInfo) (b : Bytes) : Outcome String (String × UInt32) := do
  Outcome.bailIf (b.length < 8) s!"identify reply too short ({b.length} bytes)"
  let zeroes ← Bytes.rd32 b 0
  Outcome.bailIf (zeroes ≠ 0)
    s!"unexpected leading field {hexPlain zeroes.toNat} in identify reply"
  let minor ← Bytes.rd16 b 4
  let major ← Bytes.rd16 b 6
  let info ← Outcome.ofOption
    s!"unknown sensor: major {hexPlain major.toNat}, version {hexPlain minor.toNat}"
    (devInfoLookup devices major.toUInt32 minor.toUInt32)
  .ok (info.name, info.devType)

def identifySensor (w : Usb.World S) (devices : List DeviceInfo) : Usb.Drv S (String × UInt32) := do
  let rsp ← Usb.request w [0x75] "identify sensor command (0x75)"
  let b ← Act.ofOutcome (Checked.sliceFrom rsp 2)
  Act.ofOutcome (parseIdentify devices b)

/-- Factory values by subtag; the one read last is the first. -/
abbrev FactoryBits := List (UInt16 × Bytes)

def FactoryBits.value? (bits : FactoryBits) (subtag : UInt16) : Option Bytes :=
  (bits.find? fun entry => entry.1 = subtag).map Prod.snd

def factoryEntries : Nat → Bytes → FactoryBits → Outcome String FactoryBits
  | 0, _, out => .ok out
  | entries + 1, b, out => do
    Outcome.bailIf (b.length < 12) "factory bits entry header truncated"
    let l ← Bytes.rd16 b 4
    let subtag ← Bytes.rd16 b 8
    let b ← Checked.sliceFrom b 12
    let value ← Outcome.ofOption "factory bits value truncated" (Bytes.range? b 0 l.toNat)
    let b ← Checked.sliceFrom b l.toNat
    factoryEntries entries b ((subtag, value) :: out)

def parseFactoryBits (b : Bytes) : Outcome String FactoryBits := do
  Outcome.bailIf (b.length < 8) s!"factory bits reply too short ({b.length} bytes)"
  let entries ← Bytes.rd32 b 4
  let b ← Checked.sliceFrom b 8
  factoryEntries entries.toNat b []

def factoryBitsQuery (tag : UInt16) : Bytes :=
  0x6f :: (Bytes.le16 tag ++ Bytes.le16 0 ++ Bytes.le32 0)

def getFactoryBits (w : Usb.World S) (tag : UInt16) : Usb.Drv S FactoryBits := do
  let rsp ← Usb.request w (factoryBitsQuery tag) "factory bits command (0x6f)"
  let b ← Act.ofOutcome (Checked.sliceFrom rsp 2)
  Act.ofOutcome (parseFactoryBits b)

/-- Sensors whose capture program the type-1 line update patches. -/
def lineUpdateType1Devices : List UInt32 :=
  [0xb5, 0x885, 0xb3, 0x143b, 0x1055, 0xe1, 0x8b1, 0xea, 0xe4, 0xed, 0x1825, 0x1ff5, 0x199]

def progA0 : UInt32 := 0x18

def progA1 : UInt32 := 0x19

def factoryTagCalibration : UInt16 := 0x0e00

def chunk2D : UInt16 := 0x2f

/-- A sensor's configuration, with what the capture path does not read of it. -/
structure Probed extends SensorConfig where
  deviceName : String
  sensorType : UInt32
  rom : RomInfo
  calibrationIterations : UInt32

/-- The constants of a sensor family: its key calibration line, calibration frames and
iterations. They are not discoverable. -/
def familyConstants (deviceName : String) (sensorType : UInt32) :
    Outcome String (UInt32 × UInt32 × UInt32) :=
  if sensorType = 0x199 then .ok (0x38, 3, 3)
  else if sensorType = 0xdb then .ok (0x48, 6, 0)
  else .err s!"sensor type {hexPlain sensorType.toNat} ({deviceName}) is not supported"

/-- The lines of a frame, in the program's "2D" chunk. -/
def lines2D (prog : Bytes) : Outcome String UInt32 := do
  let chunks ← splitChunks prog
  let found := chunks.find? fun c => c.kind = chunk2D
  match found.bind fun c => Bytes.range? c.body 0 4 with
  | some b => Bytes.rd32 b 0
  | none => .err "capture program has no 2D chunk"

def probe (w : Usb.World S) (devices : List DeviceInfo) : Usb.Drv S Probed := do
  let (deviceName, sensorType) ← identifySensor w devices
  let (keyCalibrationLine, calibrationFrames, calibrationIterations) ←
    Act.ofOutcome (familyConstants deviceName sensorType)
  let typeInfo ← Act.ofOutcome <| Outcome.ofOption
    s!"no geometry table for sensor type {hexPlain sensorType.toNat}" (sensorTypeInfo sensorType)
  let rom ← romInfo w
  Act.bailIf (rom.product ≠ 0x30) s!"ROM product {hexPlain rom.product.toNat} is not supported"
  let prog ← Act.ofOutcome <| Outcome.ofOption
    (s!"no capture program for ROM major {hexPlain rom.major.toNat} " ++
      s!"build {hexPlain rom.build.toNat} and sensor {hexPlain sensorType.toNat}")
    (captureProg rom sensorType progA0 progA1)
  let lines ← Act.ofOutcome (lines2D prog)
  let factoryBits ← getFactoryBits w factoryTagCalibration
  let values ← Act.ofOutcome <| Outcome.ofOption "factory calibration subtag 3 is missing"
    (factoryBits.value? 3)
  Act.ret
    { deviceName := deviceName
      sensorType := sensorType
      rom := rom
      typeInfo := typeInfo.toSensorTypeInfo
      linesPerFrame := lines * typeInfo.repeatMultiplier
      bytesPerLine := typeInfo.bytesPerLine
      captureProg := prog
      keyCalibrationLine := keyCalibrationLine
      calibrationFrames := calibrationFrames
      calibrationIterations := calibrationIterations
      -- a value of less than four bytes is an empty one
      factoryCalibrationValues := values.drop 4
      factoryCalibData := (factoryBits.value? 7).map (List.drop 4)
      lineUpdateType1 := lineUpdateType1Devices.contains sensorType }

end ValidityFprintd.Sensor
